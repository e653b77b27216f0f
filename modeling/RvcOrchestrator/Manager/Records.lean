import RvcOrchestrator.Manager.Readers

/-! # What the writers leave to the readers

Every request rewrites a few rows. `Rewrites` says what a request that stamps its rows with
one instant may do to them, and all that is recorded survives it.
-/

namespace RvcOrchestrator.Manager

open RvcOrchestrator.Foundation RvcOrchestrator.Contracts
open Assignment (Action Sound Matched)

/-! ## Rewritten rows -/

/-- The configuration stays, and a new epoch is an epoch of it. -/
structure JobRewritten (before after : JobRow) : Prop where
  experimentId : after.experimentId = before.experimentId
  datasetId : after.datasetId = before.datasetId
  jobName : after.jobName = before.jobName
  testSetId : after.testSetId = before.testSetId
  configJson : after.configJson = before.configJson
  configSha256 : after.configSha256 = before.configSha256
  priority : after.priority = before.priority
  totalEpoch : after.totalEpoch = before.totalEpoch
  epoch : ∀ epoch ∈ after.currentEpoch, epoch ∈ before.currentEpoch ∨
    0 ≤ epoch ∧ epoch ≤ before.totalEpoch

theorem JobRewritten.refl (job : JobRow) : JobRewritten job job :=
  ⟨rfl, rfl, rfl, rfl, rfl, rfl, rfl, rfl, fun _ kept => .inl kept⟩

theorem JobRewritten.trans {first middle last : JobRow} (left : JobRewritten first middle)
    (right : JobRewritten middle last) : JobRewritten first last where
  experimentId := right.experimentId.trans left.experimentId
  datasetId := right.datasetId.trans left.datasetId
  jobName := right.jobName.trans left.jobName
  testSetId := right.testSetId.trans left.testSetId
  configJson := right.configJson.trans left.configJson
  configSha256 := right.configSha256.trans left.configSha256
  priority := right.priority.trans left.priority
  totalEpoch := right.totalEpoch.trans left.totalEpoch
  epoch epoch member := by
    rcases right.epoch epoch member with between | bounds
    · exact left.epoch epoch between
    · exact .inr (left.totalEpoch ▸ bounds)

theorem Documented.rewritten {platform : Platform} {before after : JobRow}
    (documented : Documented platform before) (rewritten : JobRewritten before after) :
    Documented platform after where
  stored := by
    rcases documented.stored with ⟨config, small, stored⟩
    exact ⟨config, small,
      { jobName := rewritten.jobName.trans stored.jobName
        experimentId := rewritten.experimentId.trans stored.experimentId
        datasetId := rewritten.datasetId.trans stored.datasetId
        totalEpoch := rewritten.totalEpoch.trans stored.totalEpoch
        priority := rewritten.priority.trans stored.priority
        testSetId := rewritten.testSetId.trans stored.testSetId
        document := rewritten.configJson ▸ stored.document
        hash := rewritten.configSha256.trans stored.hash }⟩
  epoch epoch member := by
    rw [rewritten.totalEpoch]
    rcases rewritten.epoch epoch member with earlier | bounds
    · exact documented.epoch epoch earlier
    · exact bounds

/-- An attempt may end, at the given instant. -/
structure AttemptRewritten (now : Time) (before after : AttemptRow) : Prop where
  jobId : after.jobId = before.jobId
  jobConfigSha256 : after.jobConfigSha256 = before.jobConfigSha256
  startedAt : after.startedAt = before.startedAt
  finishedAt : ∀ finishedAt ∈ after.finishedAt, finishedAt ∈ before.finishedAt ∨ finishedAt = now

theorem AttemptRewritten.refl (now : Time) (attempt : AttemptRow) :
    AttemptRewritten now attempt attempt :=
  ⟨rfl, rfl, rfl, fun _ kept => .inl kept⟩

def JobsKept (before after : Ledger) : Prop :=
  ∀ jobId job, before.jobs.find? jobId = some job →
    ∃ later, after.jobs.find? jobId = some later ∧ JobRewritten job later

theorem JobsKept.refl (ledger : Ledger) : JobsKept ledger ledger :=
  fun _ job found => ⟨job, found, .refl job⟩

theorem JobsKept.trans {first middle last : Ledger} (left : JobsKept first middle)
    (right : JobsKept middle last) : JobsKept first last := by
  intro jobId job found
  rcases left jobId job found with ⟨between, betweenFound, earlier⟩
  rcases right jobId between betweenFound with ⟨later, laterFound, rest⟩
  exact ⟨later, laterFound, earlier.trans rest⟩

structure Rewrites (platform : Platform) (now : Time) (before after : Ledger) : Prop where
  kept : JobsKept before after
  jobs : ∀ {jobId job}, after.jobs.find? jobId = some job →
    (∃ old, before.jobs.find? jobId = some old ∧ JobRewritten old job) ∨ Documented platform job
  attempts : ∀ {attemptId attempt}, after.attempts.find? attemptId = some attempt →
    (∃ old, before.attempts.find? attemptId = some old ∧ AttemptRewritten now old attempt) ∨
    attempt.startedAt = now ∧ attempt.finishedAt = none ∧
      ∃ job, before.jobs.find? attempt.jobId = some job ∧
        attempt.jobConfigSha256 = job.configSha256

section

variable {platform : Platform} {settings : Settings} {ledger next : Ledger} {latest now : Time}

theorem Recorded.rewrite (recorded : Recorded platform latest ledger) (later : latest ≤ now)
    (rewrites : Rewrites platform now ledger next) : Recorded platform now next where
  job := by
    intro jobId job found
    rcases rewrites.jobs found with ⟨old, oldFound, rewritten⟩ | documented
    · exact (recorded.job oldFound).rewritten rewritten
    · exact documented
  started := by
    intro attemptId attempt found
    rcases rewrites.attempts found with ⟨old, oldFound, rewritten⟩ | ⟨started, unfinished, -⟩
    · have earlier := recorded.started oldFound
      rw [rewritten.startedAt]
      refine ⟨earlier.1.trans later, ?_⟩
      intro finishedAt member
      rcases rewritten.finishedAt finishedAt member with kept | stamped
      · exact earlier.2 finishedAt kept
      · rw [stamped]
        exact earlier.1.trans later
    · rw [unfinished]
      exact ⟨started.le, fun _ member => nomatch member⟩
  snapshot := by
    intro attemptId attempt found
    have owned : ∃ job, ledger.jobs.find? attempt.jobId = some job ∧
        attempt.jobConfigSha256 = job.configSha256 := by
      rcases rewrites.attempts found with ⟨old, oldFound, rewritten⟩ | ⟨-, -, owned⟩
      · rcases recorded.snapshot oldFound with ⟨job, jobFound, hash⟩
        rw [rewritten.jobId, rewritten.jobConfigSha256]
        exact ⟨job, jobFound, hash⟩
      · exact owned
    rcases owned with ⟨job, jobFound, hash⟩
    rcases rewrites.kept _ job jobFound with ⟨after, afterFound, rewritten⟩
    exact ⟨after, afterFound, hash.trans rewritten.configSha256.symm⟩

section

variable {workers : Table WorkerId WorkerRow} {leases : Table LeaseId LeaseRow}
  {events : List JobStatusEvent} {logs : List JobLog} {metrics : List Metric}
  {batches : List IngestBatch} {outbox : List OutboxEvent} {jobId : JobId}
  {jobChange : JobRow → JobRow}

theorem rewrites_modifyJob
    (rewritten : ∀ job, ledger.jobs.find? jobId = some job → JobRewritten job (jobChange job)) :
    Rewrites platform now ledger ⟨workers, ledger.jobs.modify jobId jobChange, ledger.attempts,
      leases, events, logs, metrics, batches, outbox⟩ where
  kept _ _ found := Table.find?_modify_of_find? JobRewritten.refl rewritten found
  jobs found := .inl (Table.find?_of_find?_modify JobRewritten.refl rewritten found)
  attempts found := .inl ⟨_, found, .refl now _⟩

/-- One Job row and one attempt row change. -/
theorem rewrites_modify {attemptId : AttemptId} {attemptChange : AttemptRow → AttemptRow}
    (jobRewritten : ∀ job, ledger.jobs.find? jobId = some job → JobRewritten job (jobChange job))
    (attemptRewritten : ∀ attempt, AttemptRewritten now attempt (attemptChange attempt)) :
    Rewrites platform now ledger ⟨workers, ledger.jobs.modify jobId jobChange,
      ledger.attempts.modify attemptId attemptChange, leases, events, logs, metrics, batches,
      outbox⟩ where
  kept _ _ found := Table.find?_modify_of_find? JobRewritten.refl jobRewritten found
  jobs found := .inl (Table.find?_of_find?_modify JobRewritten.refl jobRewritten found)
  attempts found := .inl (Table.find?_of_find?_modify (AttemptRewritten.refl now)
    (fun row _ => attemptRewritten row) found)

end

theorem Rewrites.of_same (jobs : next.jobs = ledger.jobs) (attempts : next.attempts = ledger.attempts) :
    Rewrites platform now ledger next where
  kept _ job found := ⟨job, jobs ▸ found, .refl job⟩
  jobs found := .inl ⟨_, jobs ▸ found, .refl _⟩
  attempts found := .inl ⟨_, attempts ▸ found, .refl now _⟩

theorem Rewrites.refl (platform : Platform) (now : Time) (ledger : Ledger) :
    Rewrites platform now ledger ledger :=
  .of_same rfl rfl

theorem committed_rewrites {Response : Type} {outcome : Outcome Response}
    (accepted : ∀ {response next}, outcome = .ok (response, next) →
      Rewrites platform now ledger next) :
    Rewrites platform now ledger (committed ledger outcome) := by
  match outcome with
  | .ok (_, next) => exact accepted rfl
  | .error _ => exact .refl _ _ _

/-! ## The requests -/

theorem registerWorker_rewrites {bootstrap : BootstrapToken} {workerId reply : WorkerId}
    {payload : WorkerRegisterRequest} {moment : Time}
    (accepted : registerWorker ledger bootstrap workerId payload moment = .ok (reply, next)) :
    Rewrites platform now ledger next := by
  unfold registerWorker at accepted
  repeat' split at accepted
  all_goals cases accepted
  exact .of_same rfl rfl

theorem reEnrollWorker_rewrites {bootstrap : BootstrapToken} {reply : WorkerId}
    {payload : WorkerReEnrollRequest}
    (accepted : reEnrollWorker ledger bootstrap payload = .ok (reply, next)) :
    Rewrites platform now ledger next := by
  unfold reEnrollWorker at accepted
  repeat' split at accepted
  all_goals cases accepted
  exact .of_same rfl rfl

theorem revokeWorkerToken_rewrites {workerId : WorkerId} {payload : WorkerTokenRevokeRequest}
    (accepted : revokeWorkerToken settings ledger workerId payload now = .ok ((), next)) :
    Rewrites platform now ledger next := by
  unfold revokeWorkerToken at accepted
  simp only at accepted
  repeat' split at accepted
  all_goals cases accepted
  · exact .of_same rfl rfl
  · apply rewrites_modify
    · exact fun job _ => ⟨rfl, rfl, rfl, rfl, rfl, rfl, rfl, rfl, fun _ kept => .inl kept⟩
    · exact fun attempt => ⟨rfl, rfl, rfl, fun _ stamped => .inr (Option.some.inj stamped).symm⟩

theorem closeAbandoned_rewrites (leaseId : LeaseId) (lease : LeaseRow) (job : JobRow)
    (valid : Bool) :
    Rewrites platform now ledger
      (closeAbandoned settings ledger leaseId lease job valid now) := by
  apply rewrites_modify
  · intro row _
    split
    · exact ⟨rfl, rfl, rfl, rfl, rfl, rfl, rfl, rfl, fun _ member => nomatch member⟩
    · exact ⟨rfl, rfl, rfl, rfl, rfl, rfl, rfl, rfl, fun _ kept => .inl kept⟩
  · exact fun attempt => ⟨rfl, rfl, rfl, fun _ stamped => .inr (Option.some.inj stamped).symm⟩

theorem recoverLease_rewrites (leaseId : LeaseId) :
    Rewrites platform now ledger (recoverLease platform settings now ledger leaseId) := by
  unfold recoverLease
  repeat' split
  all_goals first
    | exact .refl _ _ _
    | exact closeAbandoned_rewrites ..

theorem heartbeat_rewrites {workerId : WorkerId} {payload : WorkerHeartbeatRequest} {moment : Time}
    {response : WorkerHeartbeatResponse}
    (accepted : heartbeat platform settings ledger workerId payload moment = .ok (response, next)) :
    Rewrites platform now ledger next := by
  unfold heartbeat at accepted
  simp only at accepted
  repeat' split at accepted
  all_goals cases accepted
  all_goals exact .of_same rfl rfl

theorem renewLease_rewrites {workerId : WorkerId} {jobId : JobId} {leaseId : LeaseId}
    {checkedAt moment : Time} {response : LeaseRenewResponse}
    (accepted : renewLease platform settings ledger workerId jobId leaseId checkedAt moment =
      .ok (response, next)) :
    Rewrites platform now ledger next := by
  unfold renewLease at accepted
  split at accepted
  · cases accepted
  · cases accepted
    exact .of_same rfl rfl

theorem createJob_rewrites {admission : JobAdmission} {jobId reply : JobId} {config : JobConfig}
    {moment : Time} (small : config.resource.minVramGb.1.Small)
    (accepted : createJob platform settings ledger admission jobId config moment =
      .ok (reply, next)) :
    Rewrites platform now ledger next := by
  unfold createJob at accepted
  split at accepted
  · cases accepted
  · split at accepted
    · cases accepted
    · split at accepted
      · next fresh =>
          cases accepted
          constructor
          · intro other job found
            exact ⟨job, Table.find?_insert_of_some _ _ _ fresh found, .refl job⟩
          · intro other job found
            rcases (Table.find?_insert_eq_some_iff _ _ _ fresh).mp found with
              ⟨-, created⟩ | earlier
            · rw [created]
              refine .inr ⟨⟨config, small, ?_⟩, fun _ member => nomatch member⟩
              exact
                { storesConfig_createdJob platform config moment _ with
                  document := Json.readBack_copy _
                  hash := rfl }
            · exact .inl ⟨job, earlier, .refl job⟩
          · intro attemptId attempt found
            exact .inl ⟨attempt, found, .refl now attempt⟩
      · cases accepted

theorem cancelJob_rewrites {jobId : JobId} {owns : Bool} {moment : Time}
    (accepted : cancelJob ledger jobId owns moment = .ok ((), next)) :
    Rewrites platform now ledger next := by
  unfold cancelJob at accepted
  repeat' split at accepted
  all_goals cases accepted
  all_goals
    refine rewrites_modifyJob fun job _ => ?_
    exact ⟨rfl, rfl, rfl, rfl, rfl, rfl, rfl, rfl, fun _ kept => .inl kept⟩

theorem retryJob_rewrites {jobId : JobId} {owns : Bool} {moment : Time}
    (accepted : retryJob platform ledger jobId owns moment = .ok ((), next)) :
    Rewrites platform now ledger next := by
  unfold retryJob at accepted
  repeat' split at accepted
  all_goals cases accepted
  refine rewrites_modifyJob fun job _ => ?_
  exact ⟨rfl, rfl, rfl, rfl, rfl, rfl, rfl, rfl, fun _ member => nomatch member⟩

theorem recordUpdate_rewritten {job : JobRow} {update : JobStatusUpdate}
    (checked : validateCurrentEpoch job update.currentEpoch = .ok ()) :
    JobRewritten job (recordUpdate update job) := by
  refine ⟨rfl, rfl, rfl, rfl, rfl, rfl, rfl, rfl, ?_⟩
  intro epoch member
  simp only [recordUpdate] at member
  unfold validateCurrentEpoch at checked
  split at member
  · next reported present =>
      rcases Option.some.inj member with rfl
      rw [present] at checked
      simp only at checked
      split at checked
      · cases checked
      · next atMost => exact .inr ⟨reported.2, not_lt.mp atMost⟩
  · exact .inl member

theorem commitStatus_rewrites {workerId : WorkerId} {jobId : JobId} {update : JobStatusUpdate}
    {attemptId : AttemptId} {expectedStatus : JobStatus} {inventory : ArtifactInventory}
    {clock : StatusClock} {ack : StatusAck}
    (accepted : commitStatus platform settings ledger workerId jobId update attemptId
      expectedStatus inventory clock = .ok (ack, next)) :
    Rewrites platform clock.now ledger next := by
  unfold commitStatus at accepted
  split at accepted
  · cases accepted
  · next claim locked =>
      have jobFound := (lockCurrentStatusClaim_eq_ok locked).2.1
      split at accepted
      · cases accepted
      · cases accepted
      · next target targeted checked =>
          have written : ∀ row, ledger.jobs.find? jobId = some row →
              JobRewritten row (recordUpdate update row) := by
            intro row found
            rw [jobFound] at found
            injection found with same
            exact same ▸ recordUpdate_rewritten checked
          split at accepted
          · repeat' split at accepted
            all_goals cases accepted
            apply rewrites_modify
            · intro row found
              have rewritten := written row found
              exact ⟨rewritten.1, rewritten.2, rewritten.3, rewritten.4, rewritten.5, rewritten.6,
                rewritten.7, rewritten.8, rewritten.9⟩
            · exact fun attempt =>
                ⟨rfl, rfl, rfl, fun _ stamped => .inr (Option.some.inj stamped).symm⟩
          · cases accepted
            apply rewrites_modify
            · intro row found
              have rewritten := written row found
              exact ⟨rewritten.1, rewritten.2, rewritten.3, rewritten.4, rewritten.5, rewritten.6,
                rewritten.7, rewritten.8, rewritten.9⟩
            · exact fun attempt => ⟨rfl, rfl, rfl, fun _ kept => .inl kept⟩

theorem updateJobStatus_rewrites {earlier : Ledger} {workerId : WorkerId} {jobId : JobId}
    {update : JobStatusUpdate} {inventory inventoryAtCommit : ArtifactInventory}
    {samples : SampleCompletion} {clock : StatusClock} {ack : StatusAck}
    (accepted : updateJobStatus platform settings earlier ledger workerId jobId update inventory
      samples inventoryAtCommit clock = .ok (ack, next)) :
    Rewrites platform clock.now ledger next := by
  unfold updateJobStatus at accepted
  split at accepted
  · cases accepted
  · exact commitStatus_rewrites accepted

/-! ## Claims -/

/-- Where every snapshot can be verified, a claim assigns a Job of the queue or changes
nothing. -/
theorem claimFirst_of_valid {request : ClaimRequest} {entries : List (JobId × JobRow)}
    {response : Option JobClaim}
    (valid : ∀ entry ∈ entries, ∃ config,
      validatedJobConfig platform entry.1 entry.2 none = .ok config)
    (accepted : claimFirst platform settings request entries ledger = .ok (response, next)) :
    next = ledger ∨ ∃ entry ∈ entries, ∃ config inputs,
      commitClaim platform settings ledger request entry.1 entry.2 config inputs =
        .ok (response, next) := by
  induction entries with
  | nil =>
      cases accepted
      exact .inl rfl
  | cons entry rest induction =>
      have restValid : ∀ entry ∈ rest, ∃ config,
          validatedJobConfig platform entry.1 entry.2 none = .ok config :=
        fun other member => valid other (List.mem_cons_of_mem _ member)
      rcases valid entry List.mem_cons_self with ⟨config, entryValid⟩
      unfold claimFirst at accepted
      simp only [entryValid] at accepted
      split at accepted
      · cases accepted
      · rcases induction restValid accepted with same | ⟨other, member, committed⟩
        · exact .inl same
        · exact .inr ⟨other, List.mem_cons_of_mem _ member, committed⟩
      · next inputs _ => exact .inr ⟨entry, List.mem_cons_self, config, inputs, accepted⟩

theorem claimJob_of_valid {request : ClaimRequest} {response : Option JobClaim}
    (recorded : Recorded platform latest ledger)
    (accepted : claimJob platform settings ledger request = .ok (response, next)) :
    next = ledger ∨ ∃ jobId job config inputs,
      ledger.view.workers.find? request.workerId = some none ∧
      ledger.jobs.find? jobId = some job ∧ job.status = .queued ∧
      commitClaim platform settings ledger request jobId job config inputs =
        .ok (response, next) := by
  unfold claimJob at accepted
  split at accepted
  · cases accepted
  · next worker workerFound =>
      repeat' split at accepted
      · cases accepted
      · cases accepted
      · cases accepted
        exact .inl rfl
      · cases accepted
      · next unbound =>
          have idle : ledger.view.workers.find? request.workerId = some none := by
            rw [workerView workerFound]
            simpa using unbound
          have waiting := waiting_claimCandidates ledger
          have valid : ∀ entry ∈ claimCandidates ledger, ∃ config,
              validatedJobConfig platform entry.1 entry.2 none = .ok config := by
            intro entry member
            rcases (recorded.job (waiting.stored entry member)).accepted
              (show MatchingAttempt entry.1 entry.2 none by simp [MatchingAttempt]) with
              ⟨config, verified, -⟩
            exact ⟨config.normal, verified⟩
          rcases claimFirst_of_valid valid accepted with same | ⟨entry, member, rest⟩
          · exact .inl same
          · rcases rest with ⟨config, inputs, committed⟩
            exact .inr ⟨entry.1, entry.2, config, inputs, idle, waiting.stored entry member,
              waiting.queued entry member, committed⟩

theorem claimJob_rewrites {request : ClaimRequest} {response : Option JobClaim}
    (recorded : Recorded platform latest ledger)
    (accepted : claimJob platform settings ledger request = .ok (response, next)) :
    Rewrites platform request.now ledger next := by
  rcases claimJob_of_valid recorded accepted with
    rfl | ⟨jobId, job, config, inputs, -, found, -, committed⟩
  · exact .refl _ _ _
  · rcases commitClaim_eq_ok committed with ⟨hash, freshAttempt, freshLease, hashed, -, rfl⟩
    constructor
    · intro other row rowFound
      refine Table.find?_modify_of_find? JobRewritten.refl (fun row _ => ?_) rowFound
      exact ⟨rfl, rfl, rfl, rfl, rfl, rfl, rfl, rfl, fun _ member => nomatch member⟩
    · intro other row rowFound
      refine .inl (Table.find?_of_find?_modify JobRewritten.refl (fun row _ => ?_) rowFound)
      exact ⟨rfl, rfl, rfl, rfl, rfl, rfl, rfl, rfl, fun _ member => nomatch member⟩
    · intro attemptId attempt attemptFound
      rcases (Table.find?_insert_eq_some_iff _ _ _ freshAttempt).mp attemptFound with
        ⟨-, created⟩ | earlier
      · rw [created]
        exact .inr ⟨rfl, rfl, job, found, hashed.symm⟩
      · exact .inl ⟨attempt, earlier, .refl _ attempt⟩

/-- Such a claim fails no Job in the queue. -/
theorem claimJob_queueIntact {request : ClaimRequest} {response : Option JobClaim}
    (recorded : Recorded platform latest ledger)
    (accepted : claimJob platform settings ledger request = .ok (response, next)) :
    Does Action.QueueIntact ledger.view next.view := by
  rcases claimJob_of_valid recorded accepted with
    rfl | ⟨jobId, job, config, inputs, idle, found, queued, committed⟩
  · exact Does.nothing _ _
  · rcases commitClaim_eq_ok committed with ⟨hash, freshAttempt, freshLease, -, -, rfl⟩
    exact assignJob_does idle found queued trivial

end

/-! ## Ingests -/

section

variable {Entry Row : Type} {platform : Platform} {settings : Settings} {text : TelemetryText}
  {kind : TelemetryKind Entry Row} {ledger next : Ledger} {jobId : JobId} {now : Time}

theorem projectEpoch_rewritten {epochs : List Int} {row : JobRow}
    (bounds : ∀ epoch ∈ epochs, 0 ≤ epoch ∧ epoch ≤ row.totalEpoch) :
    JobRewritten row (projectEpoch epochs row) := by
  unfold projectEpoch
  split
  · exact .refl row
  · next projected largest =>
      split
      · refine ⟨rfl, rfl, rfl, rfl, rfl, rfl, rfl, rfl, ?_⟩
        intro epoch member
        rcases Option.some.inj member with rfl
        exact .inr (bounds _ (List.max?_mem largest))
      · exact .refl row

theorem metricEpoch_bounds {entry : MetricEntry} {totalEpoch epoch : Int}
    (reported : metricEpoch entry totalEpoch = .ok (some epoch)) :
    0 ≤ epoch ∧ epoch ≤ totalEpoch := by
  unfold metricEpoch at reported
  simp only at reported
  split at reported
  · cases reported
  · next within =>
      split at reported
      · cases reported
      · split at reported
        · injection reported with same
          cases stated : entry.epoch with
          | none =>
              rw [stated] at same
              cases same
          | some number =>
              rw [stated, Option.map_some, Option.some.injEq] at same
              rw [stated, Option.map_some, Option.any_some, decide_eq_true_eq] at within
              rw [← same]
              exact ⟨Int.natCast_nonneg number, not_lt.mp within⟩
        · split at reported
          · cases reported
          · next integer =>
              split at reported
              · cases reported
              · next atMost =>
                  split at reported
                  · cases reported
                  · injection reported with same
                    rcases Option.some.inj same with rfl
                    simp only [not_or, not_lt] at integer
                    exact ⟨Rat.num_nonneg.mpr integer.1, not_lt.mp atMost⟩

def EpochsFit (ledger : Ledger) (jobId : JobId) (checked : CheckedBatch Entry) : Prop :=
  ∃ job, ledger.jobs.find? jobId = some job ∧
    ∀ pair ∈ checked.newEntries, ∀ epoch ∈ pair.2, 0 ≤ epoch ∧ epoch ≤ job.totalEpoch

theorem EpochsFit.kept {checked : CheckedBatch Entry} (fit : EpochsFit ledger jobId checked)
    (kept : JobsKept ledger next) : EpochsFit next jobId checked := by
  rcases fit with ⟨job, found, bounds⟩
  rcases kept jobId job found with ⟨later, laterFound, rewritten⟩
  exact ⟨later, laterFound, rewritten.totalEpoch ▸ bounds⟩

theorem checkBatch_epochsFit {workerId : WorkerId} {batch : TelemetryBatch Entry}
    {checked : CheckedBatch Entry}
    (fits : ∀ entry totalEpoch epoch, kind.entryEpoch entry totalEpoch = .ok (some epoch) →
      0 ≤ epoch ∧ epoch ≤ totalEpoch)
    (accepted : checkBatch platform kind ledger workerId jobId batch now = .ok (some checked)) :
    EpochsFit ledger jobId checked := by
  rcases checkBatch_eq_ok accepted with ⟨job, incoming, locked, projected, new⟩
  rcases lockTelemetryClaim_eq_ok locked with ⟨_, _, -, found, -⟩
  refine ⟨job, found, ?_⟩
  intro pair member epoch reported
  have itsEpoch := (mem_incomingEpochs projected (new pair member)).2
  rw [show pair.2 = some epoch from reported] at itsEpoch
  exact fits _ _ _ itsEpoch

theorem writeBatch_rewrites {workerId : WorkerId} {batch : TelemetryBatch Entry}
    {checked : CheckedBatch Entry} {clock : WriteClock} {ack : OperationAck}
    (fit : EpochsFit ledger jobId checked)
    (accepted : writeBatch platform settings kind ledger workerId jobId batch checked clock =
      .ok (ack, next)) :
    Rewrites platform now ledger next := by
  rcases writeBatch_eq_ok accepted with rfl | ⟨-, -, -, rfl⟩
  · exact .refl _ _ _
  · unfold storeBatch
    split
    · exact .of_same rfl rfl
    · apply rewrites_modifyJob
      intro row found
      rcases fit with ⟨job, jobFound, bounds⟩
      rw [jobFound] at found
      rcases Option.some.inj found with rfl
      apply projectEpoch_rewritten
      intro epoch member
      rcases List.mem_filterMap.mp member with ⟨pair, pairMember, reported⟩
      exact bounds pair pairMember epoch reported

def IngestFits (ledger : Ledger) : IngestPhase → Prop
  | .logs _ jobId _ checked => EpochsFit ledger jobId checked
  | .metrics _ jobId _ checked => EpochsFit ledger jobId checked

theorem IngestFits.kept {phase : IngestPhase} (fits : IngestFits ledger phase)
    (kept : JobsKept ledger next) : IngestFits next phase := by
  cases phase with
  | logs => exact EpochsFit.kept fits kept
  | metrics => exact EpochsFit.kept fits kept

theorem launchIngest_fits {request : IngestRequest} {phase : IngestPhase}
    (launched : launchIngest platform text ledger request = some phase) :
    IngestFits ledger phase := by
  cases request with
  | logs workerId jobId batch now =>
      simp only [launchIngest] at launched
      split at launched
      · next checked accepted =>
          cases launched
          exact checkBatch_epochsFit (fun _ _ _ impossible => by cases impossible) accepted
      · cases launched
  | metrics workerId jobId batch now =>
      simp only [launchIngest] at launched
      split at launched
      · next checked accepted =>
          cases launched
          exact checkBatch_epochsFit (fun _ _ _ reported => metricEpoch_bounds reported) accepted
      · cases launched

theorem commitIngest_rewrites {choice : IngestChoice} {phase : IngestPhase}
    (fits : IngestFits ledger phase) :
    Rewrites platform now ledger (commitIngest platform settings text ledger choice phase) := by
  cases phase with
  | logs => exact committed_rewrites fun accepted => writeBatch_rewrites fits accepted
  | metrics => exact committed_rewrites fun accepted => writeBatch_rewrites fits accepted

end

/-! ## Runs -/

/-- The clock readings that an operation writes into attempts. -/
def Operation.stamps : Operation → List Time
  | .revokeWorkerToken _ _ now => [now]
  | .recoverExpiredLeases recovery => [recovery.recoveredAt]
  | .claim recovery request => [recovery.recoveredAt, request.now]
  | .heartbeat recovery _ _ _ => [recovery.recoveredAt]
  | .updateJobStatus _ _ _ _ _ _ _ clock => [clock.now]
  | _ => []

/-- A new Job's configuration survives its storage. -/
def Operation.Surviving : Operation → Prop
  | .createJob _ _ config _ => config.resource.minVramGb.1.Small
  | _ => True

abbrev IntakeEvent := Workforce.Event IngestRequest IngestChoice Operation

def eventStamps : IntakeEvent → List Time
  | .disturb operation => operation.stamps
  | _ => []

def EventSurviving : IntakeEvent → Prop
  | .disturb operation => operation.Surviving
  | _ => True

def lastStamp : Time → List Time → Time := List.foldl fun _ stamp => stamp

section

variable {platform : Platform} {settings : Settings} {text : TelemetryText}
  {ledger next : Ledger} {latest now : Time}

structure Kept (platform : Platform) (latest : Time) (ledger : Ledger) : Prop where
  sound : Sound ledger.view
  matched : Matched ledger.view
  recorded : Recorded platform latest ledger

theorem Kept.step (kept : Kept platform latest ledger)
    (does : Does Action.QueueIntact ledger.view next.view)
    (recorded : Recorded platform now next) : Kept platform now next where
  sound := does.sound kept.sound
  matched := by
    rcases does with ⟨actions, intact, steps⟩
    exact kept.matched.steps kept.sound steps intact
  recorded := recorded

theorem recover_kept (kept : Kept platform latest ledger) (recovery : Recovery)
    (later : latest ≤ recovery.recoveredAt) :
    Kept platform recovery.recoveredAt (recover platform settings ledger recovery) ∧
      JobsKept ledger (recover platform settings ledger recovery) := by
  have rows : Recorded platform recovery.recoveredAt
        (recover platform settings ledger recovery) ∧
      JobsKept ledger (recover platform settings ledger recovery) := by
    apply run_preserves (fun current : Ledger =>
      Recorded platform recovery.recoveredAt current ∧ JobsKept ledger current)
    · rintro current leaseId ⟨recorded, jobsKept⟩
      have rewrites : Rewrites platform recovery.recoveredAt current
          (recoverLease platform settings recovery.recoveredAt current leaseId) :=
        recoverLease_rewrites leaseId
      exact ⟨recorded.rewrite le_rfl rewrites, jobsKept.trans rewrites.kept⟩
    · exact ⟨kept.recorded.rewrite later (.refl _ _ _), .refl ledger⟩
  have does : Does Action.QueueIntact ledger.view
      (recover platform settings ledger recovery).view := by
    apply (recoverExpiredLeases_does kept.sound).weaken
    rintro action (⟨leaseId, target, rfl⟩ | ⟨jobId, rfl⟩)
    · exact trivial
    · exact trivial
  exact ⟨kept.step does rows.1, rows.2⟩

/-- One transaction that stamps its rows with one instant. -/
theorem Kept.commit {Response : Type} {outcome : Outcome Response}
    (kept : Kept platform latest ledger) (later : latest ≤ now)
    (does : ∀ {response next}, outcome = .ok (response, next) →
      Does Action.QueueIntact ledger.view next.view)
    (rewrites : ∀ {response next}, outcome = .ok (response, next) →
      Rewrites platform now ledger next) :
    Kept platform now (committed ledger outcome) ∧ JobsKept ledger (committed ledger outcome) := by
  have rewritten := committed_rewrites rewrites
  exact ⟨kept.step (committed_does does) (kept.recorded.rewrite later rewritten), rewritten.kept⟩

theorem commit_kept (operation : Operation) (kept : Kept platform latest ledger)
    (surviving : operation.Surviving) (later : ∀ stamp ∈ operation.stamps, latest ≤ stamp) :
    Kept platform (lastStamp latest operation.stamps)
        (operation.commit platform settings ledger) ∧
      JobsKept ledger (operation.commit platform settings ledger) := by
  cases operation with
  | registerWorker =>
      apply kept.commit le_rfl
      · intro _ _ accepted
        apply (registerWorker_does accepted).weaken
        rintro action rfl
        exact trivial
      · exact fun accepted => registerWorker_rewrites accepted
  | reEnrollWorker =>
      exact kept.commit le_rfl (fun accepted => reEnrollWorker_does _ accepted)
        fun accepted => reEnrollWorker_rewrites accepted
  | revokeWorkerToken workerId payload now =>
      apply kept.commit (later now List.mem_cons_self)
      · intro _ _ accepted
        apply (revokeWorkerToken_does kept.sound accepted).weaken
        rintro action ⟨leaseId, rfl⟩
        exact trivial
      · exact fun accepted => revokeWorkerToken_rewrites accepted
  | recoverExpiredLeases recovery =>
      exact recover_kept kept recovery (later _ List.mem_cons_self)
  | claim recovery request =>
      exact kept.commit (later _ (List.mem_cons_of_mem _ List.mem_cons_self))
        (fun accepted => claimJob_queueIntact kept.recorded accepted)
        fun accepted => claimJob_rewrites kept.recorded accepted
  | heartbeat recovery workerId payload now =>
      apply kept.commit (later _ List.mem_cons_self)
      · intro _ _ accepted
        apply (heartbeat_does accepted).weaken
        rintro action ⟨leaseId, expiry, rfl⟩
        exact trivial
      · exact fun accepted => heartbeat_rewrites accepted
  | renewLease =>
      apply kept.commit le_rfl
      · intro _ _ accepted
        apply (renewLease_does kept.sound accepted).weaken
        rintro action ⟨expiry, rfl⟩
        exact trivial
      · exact fun accepted => renewLease_rewrites accepted
  | updateJobStatus =>
      apply kept.commit (later _ List.mem_cons_self)
      · intro _ _ accepted
        apply (updateJobStatus_does kept.sound accepted).weaken
        rintro action (⟨target, occurredAt, rfl⟩ | ⟨target, now, occurredAt, counts, rfl⟩)
        · exact trivial
        · exact trivial
      · exact fun accepted => updateJobStatus_rewrites accepted
  | createJob =>
      apply kept.commit le_rfl
      · intro _ _ accepted
        apply (createJob_does accepted).weaken
        rintro action rfl
        exact trivial
      · exact fun accepted => createJob_rewrites surviving accepted
  | cancelJob =>
      apply kept.commit le_rfl
      · intro _ _ accepted
        apply (cancelJob_does accepted).weaken
        rintro action (rfl | rfl)
        · exact show JobStatus.cancelled ≠ .failed by decide
        · exact trivial
      · exact fun accepted => cancelJob_rewrites accepted
  | retryJob =>
      apply kept.commit le_rfl
      · intro _ _ accepted
        apply (retryJob_does accepted).weaken
        rintro action rfl
        exact trivial
      · exact fun accepted => retryJob_rewrites accepted

/-- The recovery that a claim or a heartbeat runs first stamps no later than the request. -/
theorem perform_kept (operation : Operation) (kept : Kept platform latest ledger)
    (surviving : operation.Surviving) (ordered : (latest :: operation.stamps).Pairwise (· ≤ ·)) :
    Kept platform (lastStamp latest operation.stamps)
        (perform platform settings ledger operation) ∧
      JobsKept ledger (perform platform settings ledger operation) := by
  have later := (List.pairwise_cons.mp ordered).1
  have afterRecovery : ∀ recovery : Recovery, latest ≤ recovery.recoveredAt →
      operation.start platform settings ledger = recover platform settings ledger recovery →
      (∀ stamp ∈ operation.stamps, recovery.recoveredAt ≤ stamp) →
      lastStamp recovery.recoveredAt operation.stamps = lastStamp latest operation.stamps →
      Kept platform (lastStamp latest operation.stamps)
          (perform platform settings ledger operation) ∧
        JobsKept ledger (perform platform settings ledger operation) := by
    intro recovery first started stamped sameLast
    rcases recover_kept kept recovery first with ⟨recovered, jobsKept⟩
    rcases commit_kept operation recovered surviving stamped with ⟨done, jobsStill⟩
    rw [perform, started, ← sameLast]
    exact ⟨done, jobsKept.trans jobsStill⟩
  cases operation with
  | claim recovery request =>
      apply afterRecovery recovery (later _ List.mem_cons_self) rfl
      · have stamps := (List.pairwise_cons.mp (List.pairwise_cons.mp ordered).2).1
        intro stamp member
        rcases List.mem_cons.mp member with rfl | rest
        · exact le_rfl
        · exact stamps stamp rest
      · rfl
  | heartbeat recovery workerId payload now =>
      apply afterRecovery recovery (later _ List.mem_cons_self) rfl
      · intro stamp member
        rw [List.mem_singleton.mp member]
      · rfl
  | _ => exact commit_kept _ kept surviving later

theorem pairwise_lastStamp {stamps rest : List Time}
    (ordered : (latest :: (stamps ++ rest)).Pairwise (· ≤ ·)) :
    (latest :: stamps).Pairwise (· ≤ ·) ∧
      (lastStamp latest stamps :: rest).Pairwise (· ≤ ·) := by
  constructor
  · exact ordered.sublist ((List.sublist_append_left stamps rest).cons_cons latest)
  · induction stamps generalizing latest with
    | nil => exact ordered
    | cons stamp stamps induction => exact induction (List.pairwise_cons.mp ordered).2

def Readable (platform : Platform) (latest : Time)
    (situation : Workforce.Situation Ledger IngestPhase) : Prop :=
  Kept platform latest situation.state ∧ ∀ phase ∈ situation.phases, IngestFits situation.state phase

theorem Readable.step {situation : Workforce.Situation Ledger IngestPhase}
    (readable : Readable platform latest situation) {event : IntakeEvent}
    (surviving : EventSurviving event)
    (ordered : (latest :: eventStamps event).Pairwise (· ≤ ·)) :
    Readable platform (lastStamp latest (eventStamps event))
      ((intake platform settings text).step situation event) := by
  cases event with
  | launch request =>
      simp only [Workforce.step]
      split
      · exact readable
      · next phase ledger launched =>
          rcases Option.map_eq_some_iff.mp launched with ⟨started, accepted, same⟩
          cases same
          refine ⟨readable.1, ?_⟩
          intro other member
          rcases List.mem_append.mp member with earlier | last
          · exact readable.2 other earlier
          · rw [List.mem_singleton.mp last]
            exact launchIngest_fits accepted
  | proceed place choice =>
      cases found : situation.phases[place]? with
      | none =>
          simp only [Workforce.step, found]
          exact readable
      | some phase =>
          have member := List.mem_of_getElem? found
          have rewrites : Rewrites platform latest situation.state
              (commitIngest platform settings text situation.state choice phase) :=
            commitIngest_rewrites (readable.2 phase member)
          have unseen : Does Action.QueueIntact situation.state.view
              (commitIngest platform settings text situation.state choice phase).view :=
            Does.of_eq (commitIngest_view choice phase)
          rw [Workforce.step_proceed found]
          refine ⟨readable.1.step unseen (readable.1.recorded.rewrite le_rfl rewrites), ?_⟩
          intro other otherMember
          have earlier : other ∈ situation.phases := List.mem_of_mem_eraseIdx otherMember
          exact (readable.2 other earlier).kept rewrites.kept
  | stop place =>
      exact ⟨readable.1, fun phase member =>
        readable.2 phase (List.mem_of_mem_eraseIdx member)⟩
  | disturb operation =>
      rcases perform_kept operation readable.1 surviving ordered with
        ⟨kept, jobsKept⟩
      exact ⟨kept, fun phase member => (readable.2 phase member).kept jobsKept⟩

theorem Readable.run {situation : Workforce.Situation Ledger IngestPhase}
    {events : List IntakeEvent} (readable : Readable platform latest situation)
    (surviving : ∀ event ∈ events, EventSurviving event)
    (ordered : (latest :: events.flatMap eventStamps).Pairwise (· ≤ ·)) :
    ∃ last, Readable platform last
      (Foundation.run (intake platform settings text).step situation events) := by
  induction events generalizing situation latest with
  | nil => exact ⟨latest, readable⟩
  | cons event events induction =>
      rw [List.flatMap_cons] at ordered
      rcases pairwise_lastStamp ordered with ⟨now, rest⟩
      exact induction (readable.step (surviving event List.mem_cons_self) now)
        (fun other member => surviving other (List.mem_cons_of_mem _ member)) rest

end

/-- Whatever requests have been made, the comparison of experiments and the projection of
Jobs accept every Job, as long as the clock does not go back and configurations survive
their storage. -/
theorem readers_accept (platform : Platform) (settings : Settings) (text : TelemetryText)
    (events : List IntakeEvent) (surviving : ∀ event ∈ events, EventSurviving event)
    (ordered : (events.flatMap eventStamps).Pairwise (· ≤ ·)) :
    ReadersAccept platform
      (run (intake platform settings text).step ⟨.empty, []⟩ events).state := by
  have start : ∀ earliest, Readable platform earliest ⟨.empty, []⟩ := fun earliest =>
    ⟨⟨Sound.empty, Matched.empty, .empty platform earliest⟩, fun _ member => nomatch member⟩
  cases stamps : events.flatMap eventStamps with
  | nil =>
      have single : (0 :: events.flatMap eventStamps).Pairwise (· ≤ ·) := by simp [stamps]
      rcases (start 0).run surviving single with ⟨last, readable⟩
      exact readersAccept_of_recorded readable.1.sound readable.1.matched readable.1.recorded
  | cons first rest =>
      have again : (first :: events.flatMap eventStamps).Pairwise (· ≤ ·) := by
        rw [stamps] at ordered ⊢
        refine List.pairwise_cons.mpr ⟨?_, ordered⟩
        intro stamp member
        rcases List.mem_cons.mp member with rfl | later
        · exact le_rfl
        · exact (List.pairwise_cons.mp ordered).1 stamp later
      rcases (start first).run surviving again with ⟨last, readable⟩
      exact readersAccept_of_recorded readable.1.sound readable.1.matched readable.1.recorded

def sampleText : TelemetryText where
  redactLogText := id
  redactLogFields := id
  isoformat _ := ""

def epochBatch : MetricBatch where
  leaseId := 1
  attemptId := 1
  idempotencyKey := "epochs-1"
  entries :=
    [{ sequence := 0
       key := "loss_mel"
       value := .zero
       epoch := some 3
       step := none
       occurredAt := 2000
       occurredAtSet := true }]
  uniqueSequences := by decide

/-- A Job is claimed, reports an epoch, and is put back into the queue when its Worker is
not heard of again. -/
def epochReport : List IntakeEvent :=
  (arrival ++ [abandonment]).map .disturb ++
    [.launch (.metrics 1 1 epochBatch 2000), .proceed 0 ⟨⟨3000, 3000, 3000⟩, id⟩,
      .disturb idleHeartbeat]

theorem readers_accept_epochReport :
    ReadersAccept samplePlatform
      (run (intake samplePlatform sampleSettings sampleText).step ⟨.empty, []⟩
        epochReport).state := by
  apply readers_accept samplePlatform sampleSettings sampleText epochReport
  · intro event member
    simp only [epochReport, arrival, abandonment, List.cons_append, List.nil_append,
      List.map_cons, List.map_nil, List.mem_cons, List.not_mem_nil, or_false] at member
    rcases member with rfl | rfl | rfl | rfl | rfl | rfl | rfl
    case inr.inr.inl => exact show PyFloat.zero.Small by decide +kernel
    all_goals exact trivial
  · decide +kernel

end RvcOrchestrator.Manager

import RvcOrchestrator.Manager.Assignment.Expiry
import RvcOrchestrator.Manager.Operations

/-! # Clock readings and answers

When a request reads the clock, and what the answers of claims, heartbeats and
renewals promise about the lease they are for.
-/

namespace RvcOrchestrator.Manager

open RvcOrchestrator.Foundation RvcOrchestrator.Contracts
open Assignment (Action Sound)

/-! ## Clock readings -/

def Operation.readings : Operation → List Time
  | .registerWorker _ _ _ now | .revokeWorkerToken _ _ now | .createJob _ _ _ now
  | .cancelJob _ _ now | .retryJob _ _ now => [now]
  | .reEnrollWorker .. => []
  | .recoverExpiredLeases recovery => [recovery.recoveredAt]
  | .claim recovery request => [recovery.recoveredAt, request.now]
  | .heartbeat recovery _ _ now => [recovery.recoveredAt, now]
  | .renewLease _ _ _ checkedAt now => [checkedAt, now]
  | .updateJobStatus _ _ _ _ _ _ _ clock =>
      [clock.checkedAt, clock.lockedAt, clock.fencedAt, clock.now]

/-- An administrator takes a running Job away from its Worker. -/
def Operation.forcesRevocation : Operation → Bool
  | .revokeWorkerToken _ payload _ => payload.forceCancelActive
  | _ => false

section

variable {platform : Platform} {settings : Settings} {ledger : Ledger}

theorem view_of_unforced {next : Ledger} {workerId : WorkerId}
    {payload : WorkerTokenRevokeRequest} {now : Time} (unforced : payload.forceCancelActive = false)
    (accepted : revokeWorkerToken settings ledger workerId payload now = .ok ((), next)) :
    next.view = ledger.view := by
  unfold revokeWorkerToken at accepted
  simp only at accepted
  split at accepted
  · cases accepted
  · next worker workerFound =>
      split at accepted
      · cases accepted
      · split at accepted
        · cases accepted
        · next idle =>
            split at accepted
            · next unbound _ =>
                injection accepted with accepted
                injection accepted with _ changed
                subst changed
                simp only [Ledger.view, deactivateWorker]
                rw [Table.map_modify_of_invisible WorkerRow.currentJobId]
                intro row found
                rw [workerFound] at found
                injection found with same
                exact same ▸ unbound.symm
            · next bound _ =>
                exact absurd (by simp [bound, unforced]) idle
            · cases accepted

theorem recover_timely {readings : List Time} (recovery : Recovery)
    (read : recovery.recoveredAt ∈ readings) (sound : Sound ledger.view) :
    Does (Action.Timely readings) ledger.view (recover platform settings ledger recovery).view := by
  refine (recoverExpiredLeases_does sound).weaken ?_
  rintro action (⟨leaseId, target, rfl⟩ | ⟨jobId, rfl⟩)
  · exact read
  · trivial

/-- Without a forced revocation, every step of a request is timely. -/
theorem perform_timely (platform : Platform) (settings : Settings) (operation : Operation)
    (unforced : operation.forcesRevocation = false) (sound : Sound ledger.view) :
    Does (Action.Timely operation.readings) ledger.view
      (perform platform settings ledger operation).view := by
  cases operation with
  | registerWorker =>
      refine committed_does fun accepted => (registerWorker_does accepted).weaken ?_
      rintro action rfl
      trivial
  | reEnrollWorker => exact committed_does fun accepted => reEnrollWorker_does _ accepted
  | revokeWorkerToken =>
      exact committed_does fun accepted => Does.of_eq (view_of_unforced unforced accepted)
  | recoverExpiredLeases recovery => exact recover_timely recovery List.mem_cons_self sound
  | claim recovery request =>
      refine (recover_timely recovery List.mem_cons_self sound).trans
        (committed_does fun accepted => (claimJob_does accepted).weaken ?_)
      rintro action (⟨jobId, rfl⟩ | ⟨jobId, expiry, rfl⟩)
      · trivial
      · trivial
  | heartbeat recovery workerId payload now =>
      refine (recover_timely recovery List.mem_cons_self sound).trans
        (committed_does fun accepted => (heartbeat_does accepted).weaken ?_)
      rintro action ⟨leaseId, expiry, rfl⟩
      exact List.mem_cons_of_mem _ List.mem_cons_self
  | renewLease workerId jobId leaseId checkedAt now =>
      refine committed_does fun accepted => (renewLease_does sound accepted).weaken ?_
      rintro action ⟨expiry, rfl⟩
      exact List.mem_cons_self
  | updateJobStatus =>
      refine committed_does fun accepted => (updateJobStatus_does sound accepted).weaken ?_
      rintro action (⟨target, occurredAt, rfl⟩ | ⟨target, now, occurredAt, counts, rfl⟩)
      · trivial
      · trivial
  | createJob =>
      refine committed_does fun accepted => (createJob_does accepted).weaken ?_
      rintro action rfl
      trivial
  | cancelJob =>
      refine committed_does fun accepted => (cancelJob_does accepted).weaken ?_
      rintro action (rfl | rfl)
      · trivial
      · trivial
  | retryJob =>
      refine committed_does fun accepted => (retryJob_does accepted).weaken ?_
      rintro action rfl
      trivial

/-! ## Answers -/

/-- The stored lease of a claim, which runs at least until `expiry`. -/
def Backs (ledger : Ledger) (workerId : WorkerId) (claim : JobClaim) (expiry : Time) : Prop :=
  ∃ lease, ledger.leases.find? claim.leaseId = some lease ∧ lease.jobId = claim.jobId ∧
    lease.attemptId = claim.attemptId ∧ lease.workerId = workerId ∧ expiry ≤ lease.expiresAt

theorem backs_of_commitClaim {next : Ledger} {request : ClaimRequest} {jobId : JobId}
    {job : JobRow} {config : JobConfig}
    {inputs : Option DatasetTransfer × Option TestSetTransfer} {claim : JobClaim}
    (accepted : commitClaim platform settings ledger request jobId job config inputs =
      .ok (some claim, next)) :
    Backs next request.workerId claim claim.leaseExpiresAt := by
  rcases commitClaim_eq_ok accepted with ⟨_, _, freshLease, -, answered, rfl⟩
  injection answered with answered
  subst answered
  exact ⟨_, Table.find?_insert_self _ _ _ freshLease, rfl, rfl, rfl, le_rfl⟩

theorem backs_of_claimFirst {next : Ledger} {request : ClaimRequest}
    {entries : List (JobId × JobRow)} {claim : JobClaim}
    (accepted : claimFirst platform settings request entries ledger = .ok (some claim, next)) :
    Backs next request.workerId claim claim.leaseExpiresAt := by
  induction entries generalizing ledger with
  | nil => cases accepted
  | cons entry rest induction =>
      rcases entry with ⟨jobId, job⟩
      unfold claimFirst at accepted
      split at accepted
      · exact induction accepted
      · split at accepted
        · cases accepted
        · exact induction accepted
        · exact backs_of_commitClaim accepted

theorem claimFirst_of_claimJob {next : Ledger} {request : ClaimRequest} {claim : JobClaim}
    (accepted : claimJob platform settings ledger request = .ok (some claim, next)) :
    claimFirst platform settings request (claimCandidates ledger) ledger =
      .ok (some claim, next) := by
  unfold claimJob at accepted
  split at accepted
  · cases accepted
  · split at accepted
    · cases accepted
    · split at accepted
      · cases accepted
      · split at accepted
        · cases accepted
        · split at accepted
          · cases accepted
          · exact accepted

/-- An accepted claim answers with the lease it has stored. -/
theorem backs_of_claimJob {next : Ledger} {request : ClaimRequest} {claim : JobClaim}
    (accepted : claimJob platform settings ledger request = .ok (some claim, next)) :
    Backs next request.workerId claim claim.leaseExpiresAt :=
  backs_of_claimFirst (claimFirst_of_claimJob accepted)

/-- A claimed Job was waiting in the queue. -/
theorem queued_of_claimJob {next : Ledger} {request : ClaimRequest} {claim : JobClaim}
    (accepted : claimJob platform settings ledger request = .ok (some claim, next)) :
    ∃ job, ledger.jobs.find? claim.jobId = some job ∧ job.status = .queued := by
  rcases claimFirst_eq_some (claimFirst_of_claimJob accepted) with
    ⟨front, job, back, candidates, -, -⟩
  have member : (claim.jobId, job) ∈ claimCandidates ledger := by
    rw [candidates]
    exact List.mem_append_right _ List.mem_cons_self
  have waiting := waiting_claimCandidates ledger
  exact ⟨job, waiting.stored _ member, waiting.queued _ member⟩

/-- The stored lease runs at least until `expiry`. -/
def LeaseUntil (ledger : Ledger) (leaseId : LeaseId) (expiry : Time) : Prop :=
  ∃ lease, ledger.leases.find? leaseId = some lease ∧ expiry ≤ lease.expiresAt

theorem leaseUntil_of_heartbeat {next : Ledger} {workerId : WorkerId}
    {payload : WorkerHeartbeatRequest} {now expiry : Time} {response : WorkerHeartbeatResponse}
    {jobId : JobId} {leaseId : LeaseId} (named : payload.current = some (jobId, leaseId))
    (offered : response.leaseExpiresAt = some expiry)
    (accepted : heartbeat platform settings ledger workerId payload now = .ok (response, next)) :
    LeaseUntil next leaseId expiry := by
  unfold heartbeat at accepted
  rw [named] at accepted
  simp only at accepted
  split at accepted
  · next lease job leaseFound jobFound =>
      split at accepted
      · cases accepted
      · split at accepted
        · cases accepted
        · split at accepted
          · cases accepted
          · split at accepted
            · cases accepted
            · injection accepted with accepted
              injection accepted with answered changed
              subst answered changed
              injection offered with same
              refine ⟨_, Table.find?_modify_of_some _ _ _ leaseFound, ?_⟩
              rw [if_pos rfl, ← same]
  · cases accepted

theorem leaseUntil_of_renewLease {next : Ledger} {workerId : WorkerId} {jobId : JobId}
    {leaseId : LeaseId} {checkedAt now : Time} {response : LeaseRenewResponse}
    (accepted : renewLease platform settings ledger workerId jobId leaseId checkedAt now =
      .ok (response, next)) :
    LeaseUntil next leaseId response.leaseExpiresAt := by
  unfold renewLease at accepted
  split at accepted
  · cases accepted
  · next lease checked =>
      injection accepted with accepted
      injection accepted with answered changed
      subst answered changed
      refine ⟨_, Table.find?_modify_of_some _ _ _ (requireActiveLease_eq_ok checked).1, ?_⟩
      rw [if_pos rfl]

end

end RvcOrchestrator.Manager

import RvcOrchestrator.Manager.Experiments

/-! # The requests follow the assignment protocol

Seen through `Ledger.view`, every accepted request is a short sequence of
protocol steps. Each lemma also says which kinds of step a request can take.
-/

namespace RvcOrchestrator.Manager

open RvcOrchestrator.Foundation RvcOrchestrator.Contracts
open Assignment (Action Step State Sound Closer Binding)

/-- `before` becomes `after` by permitted protocol steps. -/
def Does (permitted : Action → Prop) (before after : State) : Prop :=
  ∃ actions, (∀ action ∈ actions, permitted action) ∧ Steps Step before actions after

namespace Does

variable {permitted other : Action → Prop} {first middle last : State}

theorem nothing (permitted : Action → Prop) (state : State) : Does permitted state state :=
  ⟨[], by simp, .nil state⟩

theorem of_eq (equal : last = first) : Does permitted first last := by
  rw [equal]
  exact nothing permitted first

theorem one (action : Action) (allowed : permitted action) (step : Step first action last) :
    Does permitted first last :=
  ⟨[action], by simpa using allowed, .single step⟩

theorem trans (left : Does permitted first middle) (right : Does permitted middle last) :
    Does permitted first last := by
  rcases left with ⟨front, frontAllowed, frontSteps⟩
  rcases right with ⟨back, backAllowed, backSteps⟩
  refine ⟨front ++ back, ?_, frontSteps.append backSteps⟩
  intro action member
  rcases List.mem_append.mp member with inFront | inBack
  · exact frontAllowed action inFront
  · exact backAllowed action inBack

theorem weaken (does : Does permitted first last)
    (weaker : ∀ action, permitted action → other action) : Does other first last := by
  rcases does with ⟨actions, allowed, steps⟩
  exact ⟨actions, fun action member => weaker action (allowed action member), steps⟩

theorem sound (does : Does permitted first last) (sound : Sound first) : Sound last := by
  rcases does with ⟨_, _, steps⟩
  exact sound.steps steps

end Does

/-! ## Rows and their views -/

section Rows

variable {ledger : Ledger}

@[simp] theorem view_workers : ledger.view.workers = ledger.workers.map WorkerRow.currentJobId :=
  rfl

@[simp] theorem view_jobs : ledger.view.jobs = ledger.jobs.map Ledger.jobState := rfl

@[simp] theorem view_attempts : ledger.view.attempts = ledger.attempts.map Ledger.attemptState :=
  rfl

@[simp] theorem view_leases : ledger.view.leases = ledger.leases.map Ledger.leaseState := rfl

@[simp] theorem view_events : ledger.view.events = ledger.events := rfl

theorem workerView {workerId : WorkerId} {worker : WorkerRow}
    (found : ledger.workers.find? workerId = some worker) :
    ledger.view.workers.find? workerId = some worker.currentJobId := by
  simp [found]

theorem jobView {jobId : JobId} {job : JobRow} (found : ledger.jobs.find? jobId = some job) :
    ledger.view.jobs.find? jobId = some (Ledger.jobState job) := by
  simp [found]

theorem attemptView {attemptId : AttemptId} {attempt : AttemptRow}
    (found : ledger.attempts.find? attemptId = some attempt) :
    ledger.view.attempts.find? attemptId = some (Ledger.attemptState attempt) := by
  simp [found]

theorem leaseView {leaseId : LeaseId} {lease : LeaseRow}
    (found : ledger.leases.find? leaseId = some lease) :
    ledger.view.leases.find? leaseId = some (Ledger.leaseState lease) := by
  simp [found]

theorem mem_openLeases {workerId : WorkerId} {entry : LeaseId × LeaseRow}
    (member : entry ∈ openLeases ledger workerId) :
    ledger.leases.find? entry.1 = some entry.2 ∧ entry.2.workerId = workerId ∧
      (Ledger.leaseState entry.2).Open := by
  have inRows := (List.perm_insertionSort _ _).mem_iff.mp member
  simp only [List.mem_filter, Bool.and_eq_true, decide_eq_true_eq,
    Option.isNone_iff_eq_none] at inRows
  exact ⟨ledger.leases.mem_rows_iff.mp inRows.1, inRows.2.1.1, inRows.2.1.2, inRows.2.2⟩

end Rows

/-! ## Registration -/

theorem registerWorker_does {ledger next : Ledger} {bootstrap : BootstrapToken}
    {workerId reply : WorkerId} {payload : WorkerRegisterRequest} {now : Time}
    (accepted : registerWorker ledger bootstrap workerId payload now = .ok (reply, next)) :
    Does (fun action => action = .register workerId) ledger.view next.view := by
  unfold registerWorker at accepted
  split at accepted
  · cases accepted
  · cases accepted
  · split at accepted
    · cases accepted
    · split at accepted
      · next fresh =>
          injection accepted with accepted
          injection accepted with _ changed
          subst changed
          have freshView : ledger.view.workers.find? workerId = none := by simp [fresh]
          refine Does.one (.register workerId) rfl ?_
          simp only [Ledger.view, Table.map_insert]
          exact Step.register freshView
      · cases accepted

theorem reEnrollWorker_does {ledger next : Ledger} {bootstrap : BootstrapToken}
    {reply : WorkerId} {payload : WorkerReEnrollRequest} (permitted : Action → Prop)
    (accepted : reEnrollWorker ledger bootstrap payload = .ok (reply, next)) :
    Does permitted ledger.view next.view := by
  unfold reEnrollWorker at accepted
  split at accepted
  · cases accepted
  · cases accepted
  · split at accepted
    · cases accepted
    · split at accepted
      · cases accepted
      · split at accepted
        · cases accepted
        · injection accepted with accepted
          injection accepted with _ changed
          subst changed
          apply Does.of_eq
          simp only [Ledger.view]
          rw [Table.map_modify_of_invisible WorkerRow.currentJobId]
          intro row _
          rfl

/-! ## Revocation -/

/-- Writing a cancelled assignment is the administrator's `finish` step. -/
theorem view_cancelAssignment {settings : Settings} {ledger : Ledger} {leaseId : LeaseId}
    {lease : LeaseRow} {worker : WorkerRow} {attempt : AttemptRow} {previous : JobStatus}
    {now : Time} (workerFound : ledger.workers.find? lease.workerId = some worker)
    (bound : worker.currentJobId = some lease.jobId)
    (attemptFound : ledger.attempts.find? lease.attemptId = some attempt)
    (unsealed : attempt.telemetryCounts = none) :
    (cancelAssignment settings ledger lease.workerId leaseId lease previous now).view =
      ledger.view.finish leaseId (Ledger.leaseState lease) previous .cancelled .administrator
        now now none := by
  simp only [Ledger.view, cancelAssignment, deactivateWorker, State.finish, State.mk.injEq]
  refine ⟨?workers, ?jobs, ?attempts, ?leases, rfl⟩
  case workers =>
    apply Table.map_modify
    intro row found
    rw [workerFound] at found
    injection found with same
    subst same
    simp [bound, Ledger.leaseState]
  case jobs => exact Table.map_modify _ _ _ fun row _ => rfl
  case attempts =>
    apply Table.map_modify
    intro row found
    rw [attemptFound] at found
    injection found with same
    subst same
    simp [Ledger.attemptState, unsealed]
  case leases => exact Table.map_modify _ _ _ fun row _ => rfl

/-- The rows behind an open lease of a sound ledger. -/
theorem binding_of_open {ledger : Ledger} (sound : Sound ledger.view) {leaseId : LeaseId}
    {lease : LeaseRow} {job : JobRow} {attempt : AttemptRow}
    (leaseFound : ledger.leases.find? leaseId = some lease)
    (leaseOpen : (Ledger.leaseState lease).Open)
    (jobFound : ledger.jobs.find? lease.jobId = some job)
    (attemptFound : ledger.attempts.find? lease.attemptId = some attempt) :
    Binding ledger.view leaseId (Ledger.leaseState lease) (Ledger.jobState job)
        (Ledger.attemptState attempt) ∧
      attempt.status = job.status ∧ attempt.telemetryCounts = none ∧
      ∃ worker, ledger.workers.find? lease.workerId = some worker ∧
        worker.currentJobId = some lease.jobId := by
  have unfinished : attempt.finishedAt = none := by
    rcases sound.leaseAttempt (leaseView leaseFound) with ⟨found, sameAttempt, -, -, openIff⟩
    rw [show (Ledger.leaseState lease).attemptId = lease.attemptId from rfl,
      attemptView attemptFound] at sameAttempt
    injection sameAttempt with same
    subst same
    exact openIff.mp leaseOpen
  rcases sound.binding_of_unfinished (leaseView leaseFound) (jobView jobFound)
    (attemptView attemptFound) unfinished with ⟨binding, sameStatus⟩
  have unsealed := sound.unfinishedUnsealed (attemptView attemptFound) unfinished
  have bound := sound.openWorker (leaseView leaseFound) leaseOpen
  rw [view_workers, Table.find?_map, Option.map_eq_some_iff] at bound
  exact ⟨binding, sameStatus, unsealed, bound⟩

theorem revokeWorkerToken_does {settings : Settings} {ledger next : Ledger}
    {workerId : WorkerId} {payload : WorkerTokenRevokeRequest} {now : Time}
    (sound : Sound ledger.view)
    (accepted : revokeWorkerToken settings ledger workerId payload now = .ok ((), next)) :
    Does (fun action => ∃ leaseId, action = .finish leaseId .cancelled .administrator now now none)
      ledger.view next.view := by
  unfold revokeWorkerToken at accepted
  simp only at accepted
  split at accepted
  · cases accepted
  · next worker workerFound =>
      split at accepted
      · cases accepted
      · split at accepted
        · cases accepted
        · split at accepted
          · next unbound _ =>
              injection accepted with accepted
              injection accepted with _ changed
              subst changed
              apply Does.of_eq
              simp only [Ledger.view, deactivateWorker]
              rw [Table.map_modify_of_invisible WorkerRow.currentJobId]
              intro row found
              rw [workerFound] at found
              injection found with same
              exact same ▸ unbound.symm
          · next jobId leaseId lease bound single =>
              split at accepted
              · cases accepted
              · split at accepted
                · next job attempt jobFound attemptFound =>
                    split at accepted
                    · cases accepted
                    · next consistent =>
                        injection accepted with accepted
                        injection accepted with _ changed
                        subst changed
                        have member : (leaseId, lease) ∈ openLeases ledger workerId := by
                          rw [single]
                          exact List.mem_cons_self
                        rcases mem_openLeases member with ⟨leaseFound, ofWorker, leaseOpen⟩
                        rcases binding_of_open sound leaseFound leaseOpen jobFound attemptFound
                          with ⟨binding, -, unsealed, owner, ownerFound, ownerBound⟩
                        subst ofWorker
                        rw [view_cancelAssignment ownerFound ownerBound attemptFound unsealed]
                        refine Does.one _ ⟨leaseId, rfl⟩ (.finish binding (fun _ => rfl)
                          (cancelled_mem_allowed binding.leased) (by decide) (fun _ => rfl) ?_)
                        intro recoveredAt impossible
                        cases impossible
                · cases accepted
          · cases accepted

/-! ## Lease recovery -/

def Reaps (recoveredAt : Time) (action : Action) : Prop :=
  (∃ leaseId target,
    action = .finish leaseId target (.reaper recoveredAt) recoveredAt recoveredAt none) ∨
  ∃ jobId, action = .requeue jobId recoveredAt

theorem closeAbandoned_does {settings : Settings} {ledger : Ledger} {leaseId : LeaseId}
    {lease : LeaseRow} {job : JobRow} {attempt : AttemptRow} {worker : WorkerRow}
    {valid : Bool} {recoveredAt : Time}
    (binding : Binding ledger.view leaseId (Ledger.leaseState lease) (Ledger.jobState job)
      (Ledger.attemptState attempt))
    (attemptFound : ledger.attempts.find? lease.attemptId = some attempt)
    (unsealed : attempt.telemetryCounts = none)
    (jobFound : ledger.jobs.find? lease.jobId = some job)
    (workerFound : ledger.workers.find? lease.workerId = some worker)
    (bound : worker.currentJobId = some lease.jobId)
    (expired : lease.expiresAt ≤ recoveredAt) :
    Does (Reaps recoveredAt) ledger.view
      (closeAbandoned settings ledger leaseId lease job valid recoveredAt).view := by
  generalize targetEq : (if job.cancelRequestedAt.isSome then JobStatus.cancelled
    else JobStatus.failed) = target
  have finished : Step ledger.view
      (.finish leaseId target (.reaper recoveredAt) recoveredAt recoveredAt none)
      (ledger.view.finish leaseId (Ledger.leaseState lease) job.status target
        (.reaper recoveredAt) recoveredAt recoveredAt none) := by
    refine .finish binding ?_ ?_ ?_ (by simp) ?_
    · intro requested
      have present : job.cancelRequestedAt.isSome = true :=
        Option.isSome_iff_ne_none.mpr requested
      rw [← targetEq, if_pos present]
    · rw [← targetEq]
      split
      · exact cancelled_mem_allowed binding.leased
      · exact failed_mem_allowed binding.leased
    · rw [← targetEq]
      split <;> decide
    · intro instant same
      injection same with same
      exact same ▸ expired
  have workers : (ledger.workers.modify lease.workerId fun row =>
      if row.currentJobId = some lease.jobId then
        { row with currentJobId := none, status := .idle } else row).map
          WorkerRow.currentJobId =
      (ledger.workers.map WorkerRow.currentJobId).modify lease.workerId fun current =>
        if current = some lease.jobId then none else current := by
    apply Table.map_modify
    intro row found
    rw [workerFound] at found
    injection found with same
    subst same
    simp [bound]
  have attempts : ∀ code message : AttemptRow → Option String, (ledger.attempts.modify lease.attemptId fun row => { row with
      status := target
      finishedAt := some recoveredAt
      errorCode := code row
      errorMessage := message row }).map Ledger.attemptState =
      (ledger.attempts.map Ledger.attemptState).modify lease.attemptId fun row => { row with
        status := target
        finishedAt := some recoveredAt
        watermarks := none } := by
    intro code message
    apply Table.map_modify
    intro row found
    rw [attemptFound] at found
    injection found with same
    subst same
    simp [Ledger.attemptState, unsealed]
  have leases : (ledger.leases.modify leaseId fun row => { row with
      active := false
      releasedAt := some recoveredAt }).map Ledger.leaseState =
      (ledger.leases.map Ledger.leaseState).modify leaseId fun row => { row with
        active := false
        releasedAt := some recoveredAt } :=
    Table.map_modify _ _ _ fun row _ => rfl
  have first : Does (Reaps recoveredAt) ledger.view
      (ledger.view.finish leaseId (Ledger.leaseState lease) job.status target
        (.reaper recoveredAt) recoveredAt recoveredAt none) :=
    Does.one _ (.inl ⟨leaseId, target, rfl⟩) finished
  by_cases requeues : (!job.cancelRequestedAt.isSome && valid &&
      decide (0 < settings.leaseRecoveryMaxAttempts) &&
      decide (job.attemptCount < settings.leaseRecoveryMaxAttempts)) = true
  · have failedTarget : target = .failed := by
      simp only [Bool.and_eq_true, Bool.not_eq_true'] at requeues
      rw [← targetEq, if_neg (by simp [requeues.1.1.1])]
    refine first.trans (Does.one (.requeue lease.jobId recoveredAt) (.inr ⟨lease.jobId, rfl⟩) ?_)
    have viewed : (closeAbandoned settings ledger leaseId lease job valid recoveredAt).view =
        (ledger.view.finish leaseId (Ledger.leaseState lease) job.status target
          (.reaper recoveredAt) recoveredAt recoveredAt none).requeue lease.jobId
            lease.attemptId recoveredAt := by
      simp only [Ledger.view, closeAbandoned, State.finish, State.requeue, State.mk.injEq,
        requeues, if_true, targetEq]
      refine ⟨workers, ?_, attempts _ _, leases, ?_⟩
      · rw [show (Ledger.leaseState lease).jobId = lease.jobId from rfl, Table.modify_modify]
        exact Table.map_modify _ _ _ fun row _ => rfl
      · simp [Closer.source, Ledger.leaseState, failedTarget]
    rw [viewed]
    have closed : (ledger.view.finish leaseId (Ledger.leaseState lease) job.status target
        (.reaper recoveredAt) recoveredAt recoveredAt none).jobs.find? lease.jobId =
          some { Ledger.jobState job with status := target } := by
      simp [State.finish, Ledger.leaseState, jobFound, Closer.requestedAt]
    exact .requeue closed failedTarget binding.current
  · have viewed : (closeAbandoned settings ledger leaseId lease job valid recoveredAt).view =
        ledger.view.finish leaseId (Ledger.leaseState lease) job.status target
          (.reaper recoveredAt) recoveredAt recoveredAt none := by
      simp only [Ledger.view, closeAbandoned, State.finish, State.mk.injEq, requeues, targetEq]
      refine ⟨workers, ?_, attempts _ _, leases, ?_⟩
      · exact Table.map_modify _ _ _ fun row _ => rfl
      · simp [Closer.source, Ledger.leaseState]
    rw [viewed]
    exact first

theorem recoverLease_does (platform : Platform) (settings : Settings) {ledger : Ledger}
    {leaseId : LeaseId} {recoveredAt : Time} (sound : Sound ledger.view)
    (expired : ∀ {lease}, ledger.leases.find? leaseId = some lease →
      lease.expiresAt ≤ recoveredAt) :
    Does (Reaps recoveredAt) ledger.view
      (recoverLease platform settings recoveredAt ledger leaseId).view := by
  unfold recoverLease
  split
  · exact Does.nothing _ _
  · next lease leaseFound =>
      split
      · next worker job attempt workerFound jobFound attemptFound =>
          split
          · exact Does.nothing _ _
          · next current =>
              split
              · exact Does.nothing _ _
              · simp only [not_or, not_not] at current
                rcases sound.binding_of_unfinished (leaseView leaseFound) (jobView jobFound)
                  (attemptView attemptFound) current.2 with ⟨binding, -⟩
                rcases binding_of_open sound leaseFound binding.leaseOpen jobFound attemptFound
                  with ⟨-, -, unsealed, owner, ownerFound, bound⟩
                exact closeAbandoned_does binding attemptFound unsealed jobFound ownerFound bound
                  (expired leaseFound)
      · exact Does.nothing _ _

/-- Recovery moves no expiry, so a lease listed as expired stays expired until
its turn. -/
theorem recoverLease_expiresAt (platform : Platform) (settings : Settings)
    (recoveredAt : Time) (ledger : Ledger) (leaseId other : LeaseId) :
    ((recoverLease platform settings recoveredAt ledger leaseId).leases.find? other).map
        LeaseRow.expiresAt = (ledger.leases.find? other).map LeaseRow.expiresAt := by
  unfold recoverLease
  split
  · rfl
  · split
    · split
      · rfl
      · split
        · rfl
        · simp only [closeAbandoned, Table.find?_modify]
          split <;> simp [Function.comp_def]
    · rfl

theorem expired_of_mem {ledger : Ledger} {recoveredAt : Time} {batchLimit : Nat}
    {locked : List LeaseId} {leaseId : LeaseId}
    (member : leaseId ∈ expiredLeases ledger recoveredAt batchLimit locked) :
    ∀ {lease}, ledger.leases.find? leaseId = some lease → lease.expiresAt ≤ recoveredAt := by
  intro lease found
  rcases List.mem_map.mp member with ⟨row, taken, same⟩
  have matching := (List.perm_insertionSort _ _).mem_iff.mp (List.mem_of_mem_take taken)
  simp only [List.mem_filter, Bool.and_eq_true, decide_eq_true_eq] at matching
  have rowFound := ledger.leases.mem_rows_iff.mp matching.1
  rw [same, found] at rowFound
  injection rowFound with equal
  rw [equal]
  exact matching.2.1.1.1.1

theorem recoverExpiredLeases_does {platform : Platform} {settings : Settings} {ledger : Ledger}
    {recoveredAt : Time} {locked : List LeaseId} (sound : Sound ledger.view) :
    Does (Reaps recoveredAt) ledger.view
      (recoverExpiredLeases platform settings ledger recoveredAt locked).view := by
  have each : ∀ (leaseIds : List LeaseId) (ledger : Ledger), Sound ledger.view →
      (∀ leaseId ∈ leaseIds, ∀ {lease}, ledger.leases.find? leaseId = some lease →
        lease.expiresAt ≤ recoveredAt) →
      Does (Reaps recoveredAt) ledger.view
        (leaseIds.foldl (recoverLease platform settings recoveredAt) ledger).view := by
    intro leaseIds
    induction leaseIds with
    | nil =>
        intro ledger _ _
        exact Does.nothing _ _
    | cons leaseId leaseIds induction =>
        intro ledger sound expired
        have first := recoverLease_does platform settings sound
          (expired leaseId List.mem_cons_self)
        refine first.trans (induction _ (first.sound sound) ?_)
        intro other member lease found
        have same := recoverLease_expiresAt platform settings recoveredAt ledger leaseId other
        rw [found, Option.map_some, eq_comm, Option.map_eq_some_iff] at same
        rcases same with ⟨old, oldFound, sameExpiry⟩
        rw [← sameExpiry]
        exact expired other (List.mem_cons_of_mem _ member) oldFound
  exact each _ ledger sound fun leaseId member => expired_of_mem member

/-! ## Heartbeat and renewal -/

theorem map_leaseState_renew (leases : Table LeaseId LeaseRow) (leaseId : LeaseId)
    (renewedUntil now : Time) :
    (leases.modify leaseId fun row => { row with
        expiresAt := renewedUntil
        lastRenewedAt := max row.lastRenewedAt now }).map Ledger.leaseState =
      (leases.map Ledger.leaseState).modify leaseId fun row => { row with
        expiresAt := renewedUntil } :=
  Table.map_modify _ _ _ fun _ _ => rfl

theorem heartbeat_does {platform : Platform} {settings : Settings} {ledger next : Ledger}
    {workerId : WorkerId} {payload : WorkerHeartbeatRequest} {now : Time}
    {response : WorkerHeartbeatResponse}
    (accepted : heartbeat platform settings ledger workerId payload now = .ok (response, next)) :
    Does (fun action => ∃ leaseId expiry, action = .extend leaseId now expiry)
      ledger.view next.view := by
  have sameWorkers : ∀ rows : Table WorkerId WorkerRow,
      (rows.modify workerId (recordHeartbeat payload now)).map WorkerRow.currentJobId =
        rows.map WorkerRow.currentJobId := by
    intro rows
    apply Table.map_modify_of_invisible
    intro row _
    rfl
  unfold heartbeat at accepted
  simp only at accepted
  split at accepted
  · next jobId leaseId _ =>
    split at accepted
    · next lease job leaseFound jobFound =>
        split at accepted
        · cases accepted
        · split at accepted
          · cases accepted
          · split at accepted
            · cases accepted
            · split at accepted
              · cases accepted
              · next current =>
                  injection accepted with accepted
                  injection accepted with _ changed
                  subst changed
                  simp only [not_or, not_not, Bool.not_eq_false, Int.not_le] at current
                  refine Does.one (.extend leaseId now
                    (max lease.expiresAt (leaseExpiry settings now))) ⟨leaseId, _, rfl⟩ ?_
                  simp only [Ledger.view, sameWorkers, map_leaseState_renew]
                  exact .extend (leaseView leaseFound) ⟨current.1, current.2.1⟩ current.2.2.1
                    (Int.le_max_left _ _)
    · cases accepted
  · split at accepted
    · cases accepted
    · split at accepted
      · cases accepted
      · injection accepted with accepted
        injection accepted with _ changed
        subst changed
        apply Does.of_eq
        simp only [Ledger.view, sameWorkers]

/-- What `requireActiveLease` has checked. -/
theorem requireActiveLease_eq_ok {platform : Platform} {ledger : Ledger} {workerId : WorkerId}
    {jobId : JobId} {leaseId : LeaseId} {now : Time} {lease : LeaseRow}
    (accepted : requireActiveLease platform ledger workerId jobId leaseId now = .ok lease) :
    ledger.leases.find? leaseId = some lease ∧ lease.jobId = jobId ∧
      lease.workerId = workerId ∧ lease.active = true ∧ now < lease.expiresAt := by
  unfold requireActiveLease at accepted
  split at accepted
  · cases accepted
  · next found =>
      split at accepted
      · cases accepted
      · next owned =>
          split at accepted
          · cases accepted
          · next unexpired =>
              split at accepted
              · split at accepted
                · cases accepted
                · split at accepted
                  · cases accepted
                  · injection accepted with same
                    subst same
                    simp only [not_or, not_not, Bool.not_eq_false] at owned
                    exact ⟨found, owned.1, owned.2.1, owned.2.2, Int.not_le.mp unexpired⟩
              · cases accepted

theorem renewLease_does {platform : Platform} {settings : Settings} {ledger next : Ledger}
    {workerId : WorkerId} {jobId : JobId} {leaseId : LeaseId} {checkedAt now : Time}
    {response : LeaseRenewResponse} (sound : Sound ledger.view)
    (accepted : renewLease platform settings ledger workerId jobId leaseId checkedAt now =
      .ok (response, next)) :
    Does (fun action => ∃ expiry, action = .extend leaseId checkedAt expiry)
      ledger.view next.view := by
  unfold renewLease at accepted
  split at accepted
  · cases accepted
  · next lease checked =>
      injection accepted with accepted
      injection accepted with _ changed
      subst changed
      rcases requireActiveLease_eq_ok checked with ⟨found, -, -, active, unexpired⟩
      have unreleased := (sound.activeOpen (leaseView found)).mp active
      refine Does.one (.extend leaseId checkedAt
        (max lease.expiresAt (leaseExpiry settings now))) ⟨_, rfl⟩ ?_
      simp only [Ledger.view, map_leaseState_renew]
      exact .extend (leaseView found) ⟨active, unreleased⟩ unexpired (Int.le_max_left _ _)

/-! ## Claims -/

/-- What a claim does: quarantine what it cannot verify, and assign one Job. -/
def Claims (request : ClaimRequest) (action : Action) : Prop :=
  (∃ jobId, action = .discard jobId .failed request.now) ∨
  ∃ jobId expiry, action = .assign request.workerId jobId request.attemptId request.leaseId
    request.now expiry

theorem quarantine_does {ledger : Ledger} {jobId : JobId} {job : JobRow} (request : ClaimRequest)
    (found : ledger.jobs.find? jobId = some job) (queued : job.status = .queued) :
    Does (Claims request) ledger.view
      (quarantineInvalidQueuedJobConfig ledger jobId request.now).view := by
  have viewed : (quarantineInvalidQueuedJobConfig ledger jobId request.now).view =
      ledger.view.discard jobId .failed request.now := by
    simp only [Ledger.view, quarantineInvalidQueuedJobConfig, State.discard, State.mk.injEq,
      and_true, true_and]
    exact Table.map_modify _ _ _ fun _ _ => rfl
  rw [viewed]
  exact Does.one _ (.inl ⟨jobId, rfl⟩) (.discard (jobView found) queued (.inl rfl))

theorem assignJob_does {permitted : Action → Prop} {settings : Settings} {ledger : Ledger}
    {request : ClaimRequest} {jobId : JobId} {job : JobRow} {configSha256 : String}
    {freshAttempt : ledger.attempts.find? request.attemptId = none}
    {freshLease : ledger.leases.find? request.leaseId = none}
    (idle : ledger.view.workers.find? request.workerId = some none)
    (found : ledger.jobs.find? jobId = some job) (queued : job.status = .queued)
    (allowed : permitted (.assign request.workerId jobId request.attemptId request.leaseId
      request.now (leaseExpiry settings request.now))) :
    Does permitted ledger.view
      (assignJob settings ledger request jobId job configSha256 freshAttempt freshLease).view := by
  have freshAttemptView : ledger.view.attempts.find? request.attemptId = none := by
    simp [freshAttempt]
  have freshLeaseView : ledger.view.leases.find? request.leaseId = none := by
    simp [freshLease]
  have viewed : (assignJob settings ledger request jobId job configSha256 freshAttempt
      freshLease).view =
      ledger.view.assign request.workerId jobId request.attemptId request.leaseId request.now
        (leaseExpiry settings request.now) (job.attemptCount + 1) freshAttemptView
        freshLeaseView := by
    simp only [Ledger.view, assignJob, State.assign, State.mk.injEq, and_true, Table.map_insert]
    refine ⟨?_, ?_, rfl, rfl⟩
    · exact Table.map_modify _ _ _ fun _ _ => rfl
    · exact Table.map_modify _ _ _ fun _ _ => rfl
  rw [viewed]
  exact Does.one _ allowed (.assign idle (jobView found) queued freshAttemptView freshLeaseView)

theorem commitClaim_does {platform : Platform} {settings : Settings} {ledger next : Ledger}
    {request : ClaimRequest} {jobId : JobId} {job : JobRow} {config : JobConfig}
    {inputs : Option DatasetTransfer × Option TestSetTransfer} {response : Option JobClaim}
    (idle : ledger.view.workers.find? request.workerId = some none)
    (found : ledger.jobs.find? jobId = some job) (queued : job.status = .queued)
    (accepted : commitClaim platform settings ledger request jobId job config inputs =
      .ok (response, next)) :
    Does (Claims request) ledger.view next.view := by
  rcases commitClaim_eq_ok accepted with ⟨configSha256, freshAttempt, freshLease, -, -, rfl⟩
  exact assignJob_does idle found queued (.inr ⟨jobId, _, rfl⟩)

theorem claimFirst_does {platform : Platform} {settings : Settings} {request : ClaimRequest}
    {entries : List (JobId × JobRow)} {ledger next : Ledger} {response : Option JobClaim}
    (waiting : Waiting ledger entries)
    (idle : ledger.view.workers.find? request.workerId = some none)
    (accepted : claimFirst platform settings request entries ledger = .ok (response, next)) :
    Does (Claims request) ledger.view next.view := by
  induction entries generalizing ledger with
  | nil =>
      injection accepted with accepted
      injection accepted with _ changed
      exact Does.of_eq (congrArg Ledger.view changed.symm)
  | cons entry rest induction =>
      rcases entry with ⟨jobId, job⟩
      have found := waiting.stored _ List.mem_cons_self
      have queued := waiting.queued _ List.mem_cons_self
      unfold claimFirst at accepted
      split at accepted
      · exact (quarantine_does request found queued).trans
          (induction (waiting.quarantine request.now) idle accepted)
      · split at accepted
        · cases accepted
        · exact induction (waiting.sublist (List.sublist_cons_self _ _)) idle accepted
        · exact commitClaim_does idle found queued accepted

theorem claimJob_does {platform : Platform} {settings : Settings} {ledger next : Ledger}
    {request : ClaimRequest} {response : Option JobClaim}
    (accepted : claimJob platform settings ledger request = .ok (response, next)) :
    Does (Claims request) ledger.view next.view := by
  unfold claimJob at accepted
  split at accepted
  · cases accepted
  · next worker workerFound =>
      split at accepted
      · cases accepted
      · split at accepted
        · cases accepted
        · split at accepted
          · injection accepted with accepted
            injection accepted with _ changed
            exact Does.of_eq (congrArg Ledger.view changed.symm)
          · split at accepted
            · cases accepted
            · next unbound =>
                have idle : ledger.view.workers.find? request.workerId = some none := by
                  rw [workerView workerFound]
                  simpa using unbound
                exact claimFirst_does (waiting_claimCandidates ledger) idle accepted

/-! ## Status updates -/

theorem lockCurrentStatusClaim_eq_ok {platform : Platform} {ledger : Ledger}
    {workerId : WorkerId} {jobId : JobId} {attemptId : AttemptId} {leaseId : LeaseId}
    {expectedStatus : JobStatus} {now : Time} {claim : StatusClaim}
    (accepted : lockCurrentStatusClaim platform ledger workerId jobId attemptId leaseId
      expectedStatus now = .ok claim) :
    ledger.leases.find? leaseId = some claim.lease ∧
      ledger.jobs.find? jobId = some claim.job ∧
      ledger.attempts.find? attemptId = some claim.attempt ∧
      ledger.workers.find? workerId = some claim.worker ∧
      claim.lease.jobId = jobId ∧ claim.lease.attemptId = attemptId ∧
      claim.lease.workerId = workerId ∧ now < claim.lease.expiresAt ∧
      claim.job.status = expectedStatus ∧ claim.attempt.status = expectedStatus ∧
      claim.attempt.finishedAt = none ∧ claim.worker.currentJobId = some jobId := by
  unfold lockCurrentStatusClaim at accepted
  simp only at accepted
  split at accepted
  · next jobFound attemptFound =>
      split at accepted
      · cases accepted
      · split at accepted
        · next leaseFound workerFound =>
            split at accepted
            · cases accepted
            · next current =>
                injection accepted with same
                subst same
                simp only [not_or, not_not, Int.not_le] at current
                rcases current with ⟨-, -, unexpired, ofJob, ofAttempt, ofWorker, -, -, status, -,
                  -, -, unfinished, attemptStatus, -, -, bound⟩
                exact ⟨leaseFound, jobFound, attemptFound, workerFound, ofJob, ofAttempt,
                  ofWorker, unexpired, status, attemptStatus, unfinished, bound⟩
        · cases accepted
  · cases accepted

theorem validateTarget_eq_ok {job : JobRow} {update : JobStatusUpdate} {target : JobStatus}
    (accepted : validateTarget job update = .ok target) :
    (target = job.status ∨ target ∈ allowedJobTransitions job.status) ∧
      (job.cancelRequestedAt ≠ none → target = .cancelled) := by
  unfold validateTarget at accepted
  split at accepted
  · cases accepted
  · next transition =>
      split at accepted
      · cases accepted
      · next notSuperseded =>
          injection accepted with same
          subst same
          rcases validateJobTransition_eq_ok transition with ⟨equal, allowed⟩
          refine ⟨equal ▸ allowed, ?_⟩
          intro requested
          by_contra different
          apply notSuperseded
          simp [Option.isSome_iff_ne_none.mpr requested, different]

def Updates (leaseId : LeaseId) (action : Action) : Prop :=
  (∃ target occurredAt, action = .advance leaseId target occurredAt) ∨
  ∃ target now occurredAt counts,
    action = .finish leaseId target .worker now occurredAt counts

theorem writeRunning_does {ledger : Ledger} {lease : LeaseRow} {job : JobRow}
    {attempt : AttemptRow} {update : JobStatusUpdate} {target : JobStatus}
    (binding : Binding ledger.view update.leaseId (Ledger.leaseState lease) (Ledger.jobState job)
      (Ledger.attemptState attempt))
    (jobFound : ledger.jobs.find? lease.jobId = some job)
    (attemptFound : ledger.attempts.find? lease.attemptId = some attempt)
    (sameStatus : attempt.status = job.status)
    (allowed : target = job.status ∨ target ∈ allowedJobTransitions job.status)
    (cancellation : job.cancelRequestedAt ≠ none → target = .cancelled)
    (running : ¬target.Terminal) :
    Does (Updates update.leaseId) ledger.view
      (writeRunning ledger lease.jobId lease.attemptId update job.status target).view := by
  have notRequested : job.cancelRequestedAt = none := by
    by_contra requested
    exact running (cancellation requested ▸ (by decide : JobStatus.cancelled.Terminal))
  rcases allowed with same | allowed
  · subst same
    apply Does.of_eq
    simp only [Ledger.view, writeRunning, statusEvents, if_true, List.append_nil,
      State.mk.injEq, and_true, true_and]
    constructor
    · apply Table.map_modify_of_invisible
      intro row found
      rw [jobFound] at found
      injection found with same
      subst same
      rfl
    · apply Table.map_modify_of_invisible
      intro row found
      rw [attemptFound] at found
      injection found with same
      subst same
      simp [Ledger.attemptState, sameStatus]
  · have different := ne_of_allowed allowed
    have viewed : (writeRunning ledger lease.jobId lease.attemptId update job.status target).view =
        ledger.view.advance (Ledger.leaseState lease) job.status target update.occurredAt := by
      simp only [Ledger.view, writeRunning, statusEvents, State.advance, State.mk.injEq,
        true_and, if_neg (Ne.symm different)]
      refine ⟨?_, ?_, rfl⟩
      · exact Table.map_modify _ _ _ fun _ _ => rfl
      · exact Table.map_modify _ _ _ fun _ _ => rfl
    rw [viewed]
    exact Does.one _ (.inl ⟨target, update.occurredAt, rfl⟩)
      (.advance binding notRequested allowed running)

theorem writeTerminal_does {settings : Settings} {ledger : Ledger} {lease : LeaseRow}
    {job : JobRow} {attempt : AttemptRow} {worker : WorkerRow} {update : JobStatusUpdate}
    {target : JobStatus} {now : Time}
    (binding : Binding ledger.view update.leaseId (Ledger.leaseState lease) (Ledger.jobState job)
      (Ledger.attemptState attempt))
    (workerFound : ledger.workers.find? lease.workerId = some worker)
    (bound : worker.currentJobId = some lease.jobId)
    (allowed : target = job.status ∨ target ∈ allowedJobTransitions job.status)
    (cancellation : job.cancelRequestedAt ≠ none → target = .cancelled)
    (terminal : target.Terminal) :
    Does (Updates update.leaseId) ledger.view
      (writeTerminal settings ledger lease.workerId lease.jobId lease.attemptId update job.status
        target now).view := by
  have allowed : target ∈ allowedJobTransitions job.status := by
    rcases allowed with same | allowed
    · subst same
      exact absurd terminal (not_terminal_of_leased binding.leased)
    · exact allowed
  have viewed : (writeTerminal settings ledger lease.workerId lease.jobId lease.attemptId update
      job.status target now).view =
      ledger.view.finish update.leaseId (Ledger.leaseState lease) job.status target .worker now
        update.occurredAt update.telemetryCounts := by
    simp only [Ledger.view, writeTerminal, statusEvents, State.finish, State.mk.injEq,
      if_neg (Ne.symm (ne_of_allowed allowed))]
    refine ⟨?_, ?_, ?_, ?_, rfl⟩
    · apply Table.map_modify
      intro row found
      rw [workerFound] at found
      injection found with same
      subst same
      simp [bound, Ledger.leaseState]
    · exact Table.map_modify _ _ _ fun _ _ => rfl
    · exact Table.map_modify _ _ _ fun _ _ => rfl
    · exact Table.map_modify _ _ _ fun _ _ => rfl
  rw [viewed]
  refine Does.one _ (.inr ⟨target, now, update.occurredAt, update.telemetryCounts, rfl⟩)
    (.finish binding cancellation allowed terminal (by simp) ?_)
  intro recoveredAt impossible
  cases impossible

theorem commitStatus_does {platform : Platform} {settings : Settings} {ledger next : Ledger}
    {workerId : WorkerId} {jobId : JobId} {update : JobStatusUpdate} {attemptId : AttemptId}
    {expectedStatus : JobStatus} {inventory : ArtifactInventory} {clock : StatusClock}
    {ack : StatusAck} (sound : Sound ledger.view)
    (accepted : commitStatus platform settings ledger workerId jobId update attemptId
      expectedStatus inventory clock = .ok (ack, next)) :
    Does (Updates update.leaseId) ledger.view next.view := by
  unfold commitStatus at accepted
  split at accepted
  · cases accepted
  · next claim locked =>
      rcases lockCurrentStatusClaim_eq_ok locked with ⟨leaseFound, jobFound, attemptFound,
        workerFound, ofJob, ofAttempt, ofWorker, -, status, attemptStatus, unfinished, bound⟩
      subst ofJob ofAttempt ofWorker
      rcases sound.binding_of_unfinished (leaseView leaseFound) (jobView jobFound)
        (attemptView attemptFound) unfinished with ⟨binding, -⟩
      split at accepted
      · cases accepted
      · cases accepted
      · next target targeted _ =>
          rcases validateTarget_eq_ok targeted with ⟨allowed, cancellation⟩
          split at accepted
          · next terminal =>
              split at accepted
              · cases accepted
              · split at accepted
                · cases accepted
                · split at accepted
                  · cases accepted
                  · injection accepted with accepted
                    injection accepted with _ changed
                    subst changed
                    exact writeTerminal_does binding workerFound bound allowed cancellation
                      terminal
          · next running =>
              injection accepted with accepted
              injection accepted with _ changed
              subst changed
              exact writeRunning_does binding jobFound attemptFound
                (attemptStatus.trans status.symm) allowed cancellation running

theorem updateJobStatus_does {platform : Platform} {settings : Settings}
    {earlier ledger next : Ledger} {workerId : WorkerId} {jobId : JobId}
    {update : JobStatusUpdate} {inventory inventoryAtCommit : ArtifactInventory}
    {samples : SampleCompletion} {clock : StatusClock} {ack : StatusAck}
    (sound : Sound ledger.view)
    (accepted : updateJobStatus platform settings earlier ledger workerId jobId update inventory
      samples inventoryAtCommit clock = .ok (ack, next)) :
    Does (Updates update.leaseId) ledger.view next.view := by
  unfold updateJobStatus at accepted
  split at accepted
  · cases accepted
  · exact commitStatus_does sound accepted

/-! ## Jobs of the user -/

theorem createJob_does {platform : Platform} {settings : Settings} {ledger next : Ledger}
    {admission : JobAdmission} {jobId reply : JobId} {config : JobConfig} {now : Time}
    (accepted : createJob platform settings ledger admission jobId config now =
      .ok (reply, next)) :
    Does (fun action => action = .create jobId now) ledger.view next.view := by
  unfold createJob at accepted
  split at accepted
  · cases accepted
  · split at accepted
    · cases accepted
    · split at accepted
      · next fresh =>
          injection accepted with accepted
          injection accepted with _ changed
          subst changed
          have freshView : ledger.view.jobs.find? jobId = none := by simp [fresh]
          refine Does.one _ rfl ?_
          simp only [Ledger.view, Table.map_insert]
          exact Step.create freshView
      · cases accepted

theorem cancelJob_does {ledger next : Ledger} {jobId : JobId} {owns : Bool} {now : Time}
    (accepted : cancelJob ledger jobId owns now = .ok ((), next)) :
    Does (fun action => action = .discard jobId .cancelled now ∨ action = .requestCancel jobId now)
      ledger.view next.view := by
  unfold cancelJob at accepted
  split at accepted
  · cases accepted
  · next job found =>
      split at accepted
      · cases accepted
      · split at accepted
        · cases accepted
        · next running =>
            split at accepted
            · next queued =>
                injection accepted with accepted
                injection accepted with _ changed
                subst changed
                have cancelled : (ledger.jobs.modify jobId fun row => { row with
                    status := .cancelled }).map Ledger.jobState =
                    (ledger.jobs.map Ledger.jobState).modify jobId fun row => { row with
                      status := .cancelled } :=
                  Table.map_modify _ _ _ fun _ _ => rfl
                refine Does.one _ (.inl rfl) ?_
                simp only [Ledger.view, cancelled]
                exact .discard (jobView found) queued (.inr rfl)
            · next notQueued =>
                injection accepted with accepted
                injection accepted with _ changed
                subst changed
                have requested : (ledger.jobs.modify jobId fun row => { row with
                    cancelRequestedAt := some now }).map Ledger.jobState =
                    (ledger.jobs.map Ledger.jobState).modify jobId fun row => { row with
                      cancelRequestedAt := some now } :=
                  Table.map_modify _ _ _ fun _ _ => rfl
                refine Does.one _ (.inr rfl) ?_
                simp only [Ledger.view, requested]
                exact .requestCancel (jobView found) notQueued running

theorem retryJob_does {platform : Platform} {ledger next : Ledger} {jobId : JobId} {owns : Bool}
    {now : Time} (accepted : retryJob platform ledger jobId owns now = .ok ((), next)) :
    Does (fun action => action = .requeue jobId now) ledger.view next.view := by
  unfold retryJob at accepted
  split at accepted
  · cases accepted
  · next job found =>
      split at accepted
      · cases accepted
      · split at accepted
        · cases accepted
        · next failed =>
            split at accepted
            · cases accepted
            · next attemptId current =>
                split at accepted
                · cases accepted
                · split at accepted
                  · cases accepted
                  · injection accepted with accepted
                    injection accepted with _ changed
                    subst changed
                    refine Does.one _ rfl ?_
                    have requeued : Step ledger.view (.requeue jobId now)
                        (ledger.view.requeue jobId attemptId now) :=
                      .requeue (jobView found) (not_not.mp failed) current
                    convert requeued using 1
                    simp only [Ledger.view, State.requeue, State.mk.injEq, and_true, true_and]
                    exact Table.map_modify _ _ _ fun _ _ => rfl

end RvcOrchestrator.Manager

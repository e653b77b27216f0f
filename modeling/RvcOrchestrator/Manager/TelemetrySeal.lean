import RvcOrchestrator.Manager.Ingest

/-! # The telemetry seal

A terminal status may seal an attempt with the counts of its logs and metrics. From then on
only what is below the counts can still arrive, and nothing arrives for an attempt that
ended without them.
-/

namespace RvcOrchestrator.Manager

open RvcOrchestrator.Foundation RvcOrchestrator.Contracts
open Assignment (Action Step State Sound)

/-! ## What the protocol keeps -/

namespace Assignment

/-- A lease stays, for the same Job, attempt and Worker. -/
def LeaseKept (before after : State) : Prop :=
  ∀ leaseId lease, before.leases.find? leaseId = some lease →
    ∃ later, after.leases.find? leaseId = some later ∧ later.jobId = lease.jobId ∧
      later.attemptId = lease.attemptId ∧ later.workerId = lease.workerId

theorem LeaseKept.refl (state : State) : LeaseKept state state :=
  fun _ lease found => ⟨lease, found, rfl, rfl, rfl⟩

theorem LeaseKept.trans {first middle last : State} (left : LeaseKept first middle)
    (right : LeaseKept middle last) : LeaseKept first last := by
  intro leaseId lease found
  rcases left leaseId lease found with ⟨between, betweenFound, job, attempt, worker⟩
  rcases right leaseId between betweenFound with
    ⟨later, laterFound, laterJob, laterAttempt, laterWorker⟩
  exact ⟨later, laterFound, laterJob.trans job, laterAttempt.trans attempt,
    laterWorker.trans worker⟩

theorem Step.leaseKept {state next : State} {action : Action} (taken : Step state action next) :
    LeaseKept state next := by
  have changed : ∀ {leases : Table LeaseId LeaseState} {key : LeaseId}
      {change : LeaseState → LeaseState}, leases = state.leases.modify key change →
      (∀ row, (change row).jobId = row.jobId ∧ (change row).attemptId = row.attemptId ∧
        (change row).workerId = row.workerId) →
      ∀ leaseId lease, state.leases.find? leaseId = some lease →
        ∃ later, leases.find? leaseId = some later ∧ later.jobId = lease.jobId ∧
          later.attemptId = lease.attemptId ∧ later.workerId = lease.workerId := by
    rintro leases key change rfl same leaseId lease found
    refine ⟨_, Table.find?_modify_of_some _ _ _ found, ?_⟩
    split
    · exact same lease
    · exact ⟨rfl, rfl, rfl⟩
  cases taken with
  | assign idle jobFound queued freshAttempt freshLease =>
      intro leaseId lease found
      exact ⟨lease, Table.find?_insert_of_some _ _ _ freshLease found, rfl, rfl, rfl⟩
  | extend => exact changed (by rw []) (by simp)
  | finish => exact changed (by rw [State.finish]) (by simp)
  | register | create | advance | requeue | discard | requestCancel => exact .refl state

theorem Steps.leaseKept {state last : State} {actions : List Action}
    (taken : Steps Step state actions last) : LeaseKept state last := by
  induction taken with
  | nil state => exact .refl state
  | cons step _ induction => exact (Step.leaseKept step).trans induction

def Action.SealsNothing : Action → Prop
  | .finish _ _ _ _ _ watermarks => watermarks = none
  | _ => True

def WatermarksOld (before after : State) : Prop :=
  ∀ {attemptId attempt counts}, after.attempts.find? attemptId = some attempt →
    attempt.watermarks = some counts →
    ∃ old, before.attempts.find? attemptId = some old ∧ old.watermarks = some counts

theorem Step.watermarksOld {state next : State} {action : Action} (taken : Step state action next)
    (quiet : action.SealsNothing) : WatermarksOld state next := by
  intro attemptId attempt counts found counted
  cases taken with
  | register | create | extend | requeue | discard | requestCancel => exact ⟨attempt, found, counted⟩
  | assign idle jobFound queued freshAttempt freshLease =>
      rcases (Table.find?_insert_eq_some_iff _ _ _ freshAttempt).mp found with ⟨-, new⟩ | earlier
      · rw [new] at counted
        cases counted
      · exact ⟨attempt, earlier, counted⟩
  | advance =>
      rcases (Table.find?_modify_eq_some_iff _ _ _).mp found with ⟨row, rowFound, same⟩
      refine ⟨row, rowFound, ?_⟩
      rw [same] at counted
      split at counted
      · exact counted
      · exact counted
  | finish =>
      rcases (Table.find?_modify_eq_some_iff _ _ _).mp found with ⟨row, rowFound, same⟩
      refine ⟨row, rowFound, ?_⟩
      rw [same] at counted
      split at counted
      · rw [show _ = none from quiet] at counted
        cases counted
      · exact counted

theorem Steps.watermarksOld {state last : State} {actions : List Action}
    (taken : Steps Step state actions last) (quiet : ∀ action ∈ actions, action.SealsNothing) :
    WatermarksOld state last := by
  induction taken with
  | nil => exact fun found counted => ⟨_, found, counted⟩
  | cons step _ induction =>
      intro attemptId attempt counts found counted
      rcases induction (fun action member => quiet action (List.mem_cons_of_mem _ member)) found
        counted with ⟨between, betweenFound, betweenCounted⟩
      exact Step.watermarksOld step (quiet _ List.mem_cons_self) betweenFound betweenCounted

end Assignment

/-! ## Who seals -/

def Below (ledger : Ledger) (attemptId : AttemptId) (counts : Nat × Nat) : Prop :=
  (∀ log ∈ ledger.logs, log.attemptId = attemptId → log.sequence < counts.1) ∧
    ∀ metric ∈ ledger.metrics, metric.attemptId = attemptId → metric.sequence < counts.2

/-- Watermarks are old, or nothing is above them. -/
def SealedBelow (before after : Ledger) : Prop :=
  ∀ attemptId attempt counts, after.attempts.find? attemptId = some attempt →
    attempt.telemetryCounts = some counts →
    (∃ old, before.attempts.find? attemptId = some old ∧ old.telemetryCounts = some counts) ∨
      Below before attemptId counts

section

variable {platform : Platform} {settings : Settings} {ledger next : Ledger}

theorem sealedBelow_of_does {permitted : Action → Prop}
    (quiet : ∀ action, permitted action → action.SealsNothing)
    (does : Does permitted ledger.view next.view) : SealedBelow ledger next := by
  rcases does with ⟨actions, allowed, steps⟩
  intro attemptId attempt counts found counted
  rcases Assignment.Steps.watermarksOld steps (fun action member =>
    quiet action (allowed action member)) (attemptView found) counted with ⟨state, stateFound, same⟩
  rcases find?_map_eq_some stateFound with ⟨old, oldFound, rfl⟩
  exact .inl ⟨old, oldFound, same⟩

theorem committed_sealedBelow {Response : Type} {outcome : Outcome Response}
    (accepted : ∀ {response next}, outcome = .ok (response, next) → SealedBelow ledger next) :
    SealedBelow ledger (committed ledger outcome) := by
  match outcome with
  | .ok (_, next) => exact accepted rfl
  | .error _ => exact fun _ attempt _ found counted => .inl ⟨attempt, found, counted⟩

theorem lt_of_maxSequence {sequences : List Nat} {count sequence : Nat}
    (within : ¬(maxSequence sequences).any (fun largest => decide (count ≤ largest)) = true)
    (member : sequence ∈ sequences) : sequence < count := by
  cases largest : sequences.max? with
  | none =>
      rw [List.max?_eq_none_iff.mp largest] at member
      nomatch member
  | some bound =>
      rw [maxSequence, largest, Option.any_some, decide_eq_true_eq, Nat.not_le] at within
      exact Nat.lt_of_le_of_lt ((List.max?_le_iff largest).mp (Nat.le_refl bound) _ member) within

theorem below_of_validated {attemptId : AttemptId} {counts : Nat × Nat}
    (validated : validateTerminalTelemetryWatermarks ledger attemptId (some counts) = .ok ()) :
    Below ledger attemptId counts := by
  rcases counts with ⟨logCount, metricCount⟩
  unfold validateTerminalTelemetryWatermarks at validated
  simp only at validated
  split at validated
  · cases validated
  · next logsWithin =>
      split at validated
      · cases validated
      · next metricsWithin =>
          constructor
          · intro log member ofAttempt
            apply lt_of_maxSequence logsWithin
            exact List.mem_map.mpr ⟨log, List.mem_filter.mpr ⟨member, by simp [ofAttempt]⟩, rfl⟩
          · intro metric member ofAttempt
            apply lt_of_maxSequence metricsWithin
            exact List.mem_map.mpr ⟨metric, List.mem_filter.mpr ⟨member, by simp [ofAttempt]⟩, rfl⟩

theorem commitStatus_sealedBelow {workerId : WorkerId} {jobId : JobId} {update : JobStatusUpdate}
    {attemptId : AttemptId} {expectedStatus : JobStatus} {inventory : ArtifactInventory}
    {clock : StatusClock} {ack : StatusAck}
    (accepted : commitStatus platform settings ledger workerId jobId update attemptId
      expectedStatus inventory clock = .ok (ack, next)) : SealedBelow ledger next := by
  unfold commitStatus at accepted
  split at accepted
  · cases accepted
  · split at accepted
    · cases accepted
    · cases accepted
    · split at accepted
      · split at accepted
        · cases accepted
        · split at accepted
          · cases accepted
          · split at accepted
            · cases accepted
            · next validated =>
                cases accepted
                intro other attempt counts found counted
                rcases (Table.find?_modify_eq_some_iff _ _ _).mp found with ⟨row, rowFound, same⟩
                by_cases equal : other = attemptId
                · rw [same, if_pos equal] at counted
                  rw [show update.telemetryCounts = some counts from counted] at validated
                  exact .inr (equal ▸ below_of_validated validated)
                · rw [same, if_neg equal] at counted
                  exact .inl ⟨row, rowFound, counted⟩
      · cases accepted
        intro other attempt counts found counted
        rcases (Table.find?_modify_eq_some_iff _ _ _).mp found with ⟨row, rowFound, same⟩
        refine .inl ⟨row, rowFound, ?_⟩
        rw [same] at counted
        split at counted
        · exact counted
        · exact counted

theorem updateJobStatus_sealedBelow {earlier : Ledger} {workerId : WorkerId} {jobId : JobId}
    {update : JobStatusUpdate} {inventory inventoryAtCommit : ArtifactInventory}
    {samples : SampleCompletion} {clock : StatusClock} {ack : StatusAck}
    (accepted : updateJobStatus platform settings earlier ledger workerId jobId update inventory
      samples inventoryAtCommit clock = .ok (ack, next)) : SealedBelow ledger next := by
  unfold updateJobStatus at accepted
  split at accepted
  · cases accepted
  · exact commitStatus_sealedBelow accepted

theorem commit_sealedBelow (sound : Sound ledger.view) (operation : Operation) :
    SealedBelow ledger (operation.commit platform settings ledger) := by
  cases operation with
  | registerWorker =>
      refine committed_sealedBelow fun accepted => sealedBelow_of_does ?_ (registerWorker_does accepted)
      rintro action rfl
      exact trivial
  | reEnrollWorker =>
      exact committed_sealedBelow fun accepted =>
        sealedBelow_of_does (fun _ quiet => quiet) (reEnrollWorker_does _ accepted)
  | revokeWorkerToken =>
      refine committed_sealedBelow fun accepted => sealedBelow_of_does ?_ (revokeWorkerToken_does sound accepted)
      rintro action ⟨leaseId, rfl⟩
      rfl
  | recoverExpiredLeases =>
      apply sealedBelow_of_does _ (recoverExpiredLeases_does sound)
      rintro action (⟨leaseId, target, rfl⟩ | ⟨jobId, rfl⟩)
      · rfl
      · exact trivial
  | claim =>
      refine committed_sealedBelow fun accepted => sealedBelow_of_does ?_ (claimJob_does accepted)
      rintro action (⟨jobId, rfl⟩ | ⟨jobId, expiry, rfl⟩)
      · exact trivial
      · exact trivial
  | heartbeat =>
      refine committed_sealedBelow fun accepted => sealedBelow_of_does ?_ (heartbeat_does accepted)
      rintro action ⟨leaseId, expiry, rfl⟩
      exact trivial
  | renewLease =>
      refine committed_sealedBelow fun accepted => sealedBelow_of_does ?_ (renewLease_does sound accepted)
      rintro action ⟨expiry, rfl⟩
      exact trivial
  | updateJobStatus => exact committed_sealedBelow fun accepted => updateJobStatus_sealedBelow accepted
  | createJob =>
      refine committed_sealedBelow fun accepted => sealedBelow_of_does ?_ (createJob_does accepted)
      rintro action rfl
      exact trivial
  | cancelJob =>
      refine committed_sealedBelow fun accepted => sealedBelow_of_does ?_ (cancelJob_does accepted)
      rintro action (rfl | rfl)
      · exact trivial
      · exact trivial
  | retryJob =>
      refine committed_sealedBelow fun accepted => sealedBelow_of_does ?_ (retryJob_does accepted)
      rintro action rfl
      exact trivial

theorem start_watermarksOld (sound : Sound ledger.view) (operation : Operation) {attemptId : AttemptId}
    {attempt : AttemptRow} {counts : Nat × Nat}
    (found : (operation.start platform settings ledger).attempts.find? attemptId = some attempt)
    (counted : attempt.telemetryCounts = some counts) :
    ∃ old, ledger.attempts.find? attemptId = some old ∧ old.telemetryCounts = some counts := by
  rcases operation.start_does sound with ⟨actions, allowed, steps⟩
  have quiet : ∀ action ∈ actions, action.SealsNothing := by
    intro action member
    rcases allowed action member with ⟨recoveredAt, ⟨leaseId, target, rfl⟩ | ⟨jobId, rfl⟩⟩
    · rfl
    · exact trivial
  rcases Assignment.Steps.watermarksOld steps quiet (attemptView found) counted with
    ⟨state, stateFound, same⟩
  rcases find?_map_eq_some stateFound with ⟨old, oldFound, rfl⟩
  exact ⟨old, oldFound, same⟩

theorem start_sameTelemetry (operation : Operation) :
    SameTelemetry ledger (operation.start platform settings ledger) := by
  cases operation with
  | claim recovery => exact recover_sameTelemetry recovery
  | heartbeat recovery => exact recover_sameTelemetry recovery
  | _ => exact .refl ledger

theorem perform_sealedBelow (sound : Sound ledger.view) (operation : Operation) :
    SealedBelow ledger (perform platform settings ledger operation) := by
  intro attemptId attempt counts found counted
  have started : Sound (operation.start platform settings ledger).view :=
    (operation.start_does sound).sound sound
  rcases commit_sealedBelow started operation attemptId attempt counts found counted with
    ⟨old, oldFound, oldCounted⟩ | ⟨logs, metrics⟩
  · exact .inl (start_watermarksOld sound operation oldFound oldCounted)
  · have same : SameTelemetry ledger (operation.start platform settings ledger) :=
      start_sameTelemetry operation
    rw [same.logs] at logs
    rw [same.metrics] at metrics
    exact .inr ⟨logs, metrics⟩

end

/-! ## Ingests under way -/

def phaseClaim : IngestPhase → TelemetryClaim
  | .logs workerId jobId batch _ =>
      { workerId := workerId
        jobId := jobId
        leaseId := batch.leaseId
        attemptId := batch.attemptId
        sequences := batch.entries.map LogEntry.sequence }
  | .metrics workerId jobId batch _ =>
      { workerId := workerId
        jobId := jobId
        leaseId := batch.leaseId
        attemptId := batch.attemptId
        sequences := batch.entries.map MetricEntry.sequence }

/-- The lease of a row's attempt runs, or the attempt is over and the row below its
watermark. -/
def Permitted (ledger : Ledger) (claim : TelemetryClaim) (watermark : Nat × Nat → Nat)
    (now : Time) (sequence : Nat) : Prop :=
  ∃ lease attempt, Presents ledger claim lease attempt ∧
    ((∃ job, ledger.jobs.find? claim.jobId = some job ∧ Running claim lease job attempt now) ∨
      attempt.finishedAt ≠ none ∧
        ∃ counts, attempt.telemetryCounts = some counts ∧ sequence < watermark counts)

section

variable {Entry Row : Type} {platform : Platform} {settings : Settings} {text : TelemetryText}
  {kind : TelemetryKind Entry Row} {ledger next : Ledger} {workerId : WorkerId} {jobId : JobId}
  {batch : TelemetryBatch Entry} {checked : CheckedBatch Entry}

structure BatchFits (kind : TelemetryKind Entry Row) (ledger : Ledger) (workerId : WorkerId)
    (jobId : JobId) (batch : TelemetryBatch Entry) (checked : CheckedBatch Entry) : Prop where
  entries : ∀ pair ∈ checked.newEntries, pair.1 ∈ batch.entries
  late : checked.late = true → ∃ lease attempt,
    Presents ledger (telemetryClaim kind workerId jobId batch) lease attempt ∧
      Sealed kind.watermark (telemetryClaim kind workerId jobId batch) attempt

theorem checkBatch_fits {now : Time}
    (accepted : checkBatch platform kind ledger workerId jobId batch now = .ok (some checked)) :
    BatchFits kind ledger workerId jobId batch checked := by
  rcases checkBatch_eq_ok accepted with ⟨job, incoming, locked, projected, new⟩
  rcases lockTelemetryClaim_eq_ok locked with ⟨lease, attempt, presents, -, -, ended⟩
  constructor
  · intro pair member
    exact (mem_incomingEpochs projected (new pair member)).1
  · intro late
    exact ⟨lease, attempt, presents, ended late⟩

/-- What has ended stays as it is, and leases stay with their parties. -/
structure SealKept (before after : Ledger) : Prop where
  lease : ∀ {leaseId lease}, before.leases.find? leaseId = some lease →
    ∃ later, after.leases.find? leaseId = some later ∧ later.jobId = lease.jobId ∧
      later.attemptId = lease.attemptId ∧ later.workerId = lease.workerId
  attempt : ∀ {attemptId attempt}, before.attempts.find? attemptId = some attempt →
    attempt.finishedAt ≠ none → ∃ later, after.attempts.find? attemptId = some later ∧
      Ledger.attemptState later = Ledger.attemptState attempt

theorem sealKept_of_does {permitted : Action → Prop}
    (does : Does permitted ledger.view next.view) : SealKept ledger next := by
  rcases does with ⟨actions, -, steps⟩
  constructor
  · intro leaseId lease found
    rcases Assignment.Steps.leaseKept steps leaseId _ (leaseView found) with
      ⟨state, stateFound, parties⟩
    rcases find?_map_eq_some stateFound with ⟨later, laterFound, rfl⟩
    exact ⟨later, laterFound, parties⟩
  · intro attemptId attempt found finished
    have later := (Assignment.Steps.later steps).finishedAttempt (attemptView found) finished
    exact find?_map_eq_some later

theorem BatchFits.kept (fits : BatchFits kind ledger workerId jobId batch checked)
    (kept : SealKept ledger next) : BatchFits kind next workerId jobId batch checked where
  entries := fits.entries
  late := by
    intro late
    rcases fits.late late with ⟨lease, attempt, presents, sealed⟩
    rcases kept.lease presents.leaseFound with ⟨laterLease, leaseFound, ofJob, ofAttempt, ofWorker⟩
    rcases kept.attempt presents.attemptFound sealed.finished with ⟨later, laterFound, same⟩
    refine ⟨laterLease, later, ?_, ?_⟩
    · exact ⟨leaseFound, ofJob.trans presents.leaseJob, ofAttempt.trans presents.leaseAttempt,
        ofWorker.trans presents.leaseWorker, laterFound,
        (congrArg Assignment.AttemptState.jobId same).trans presents.attemptJob,
        (congrArg Assignment.AttemptState.workerId same).trans presents.attemptWorker⟩
    · rcases sealed.below with ⟨counts, counted, below⟩
      constructor
      · rw [show later.finishedAt = attempt.finishedAt from
          congrArg Assignment.AttemptState.finishedAt same]
        exact sealed.finished
      · exact ⟨counts, (congrArg Assignment.AttemptState.watermarks same).trans counted, below⟩

theorem writeBatch_permitted {clock : WriteClock} {ack : OperationAck}
    (fits : BatchFits kind ledger workerId jobId batch checked)
    (accepted : writeBatch platform settings kind ledger workerId jobId batch checked clock =
      .ok (ack, next)) :
    next = ledger ∨
      next = storeBatch platform settings kind ledger jobId batch checked ∧
        ∀ pair ∈ checked.newEntries, Permitted ledger (telemetryClaim kind workerId jobId batch)
          kind.watermark clock.lockedAt (kind.sequence pair.1) := by
  rcases writeBatch_eq_ok accepted with same | ⟨late | fenced, -, -, stored⟩
  · exact .inl same
  · refine .inr ⟨stored, ?_⟩
    intro pair member
    rcases fits.late late with ⟨lease, attempt, presents, sealed⟩
    rcases sealed.below with ⟨counts, counted, below⟩
    refine ⟨lease, attempt, presents, .inr ⟨sealed.finished, counts, counted, below _ ?_⟩⟩
    exact List.mem_map.mpr ⟨pair.1, fits.entries pair member, rfl⟩
  · refine .inr ⟨stored, ?_⟩
    intro pair _
    rcases acquireActiveTelemetryWriteFence_eq_ok fenced with
      ⟨lease, job, attempt, presents, found, running⟩
    exact ⟨lease, attempt, presents, .inl ⟨job, found, running⟩⟩

/-! ## What a step adds -/

structure Contributes (ledger : Ledger) (phase : IngestPhase) (now : Time) (logs : List JobLog)
    (metrics : List Metric) : Prop where
  logs : ∀ log ∈ logs, log.jobId = (phaseClaim phase).jobId ∧
    log.attemptId = (phaseClaim phase).attemptId ∧
    Permitted ledger (phaseClaim phase) Prod.fst now log.sequence
  metrics : ∀ metric ∈ metrics, metric.jobId = (phaseClaim phase).jobId ∧
    metric.attemptId = (phaseClaim phase).attemptId ∧
    Permitted ledger (phaseClaim phase) Prod.snd now metric.sequence

theorem Contributes.nothing (ledger : Ledger) (phase : IngestPhase) (now : Time) :
    Contributes ledger phase now [] [] where
  logs _ member := nomatch member
  metrics _ member := nomatch member

/-- Stored rows stay, and only an ingest adds to them. -/
def AppendsLawfully (situation : Workforce.Situation Ledger IngestPhase)
    (event : Workforce.Event IngestRequest IngestChoice Operation) (next : Ledger) : Prop :=
  ∃ logs metrics, next.logs = situation.state.logs ++ logs ∧
    next.metrics = situation.state.metrics ++ metrics ∧
    ((logs = [] ∧ metrics = []) ∨ ∃ place choice phase, event = .proceed place choice ∧
      situation.phases[place]? = some phase ∧
      Contributes situation.state phase choice.clock.lockedAt logs metrics)

def SealFits (text : TelemetryText) (ledger : Ledger) : IngestPhase → Prop
  | .logs workerId jobId batch checked =>
      BatchFits (logKind text id) ledger workerId jobId batch.toTelemetryBatch checked
  | .metrics workerId jobId batch checked =>
      BatchFits (metricKind text) ledger workerId jobId batch.toTelemetryBatch checked

theorem SealFits.kept {phase : IngestPhase} (fits : SealFits text ledger phase)
    (kept : SealKept ledger next) : SealFits text next phase := by
  cases phase with
  | logs => exact BatchFits.kept fits kept
  | metrics => exact BatchFits.kept fits kept

theorem launchIngest_sealFits {request : IngestRequest} {phase : IngestPhase}
    (launched : launchIngest platform text ledger request = some phase) :
    SealFits text ledger phase := by
  cases request with
  | logs workerId jobId batch now =>
      simp only [launchIngest] at launched
      split at launched
      · next checked accepted =>
          cases launched
          exact checkBatch_fits accepted
      · cases launched
  | metrics workerId jobId batch now =>
      simp only [launchIngest] at launched
      split at launched
      · next checked accepted =>
          cases launched
          exact checkBatch_fits accepted
      · cases launched

theorem commitIngest_contributes {choice : IngestChoice} {phase : IngestPhase}
    (fits : SealFits text ledger phase) :
    ∃ logs metrics,
      (commitIngest platform settings text ledger choice phase).logs = ledger.logs ++ logs ∧
      (commitIngest platform settings text ledger choice phase).metrics =
        ledger.metrics ++ metrics ∧
      Contributes ledger phase choice.clock.lockedAt logs metrics := by
  have nothing : ∃ logs metrics, ledger.logs = ledger.logs ++ logs ∧
      ledger.metrics = ledger.metrics ++ metrics ∧
      Contributes ledger phase choice.clock.lockedAt logs metrics :=
    ⟨[], [], (List.append_nil _).symm, (List.append_nil _).symm, .nothing _ _ _⟩
  cases phase with
  | logs workerId jobId batch checked =>
      simp only [commitIngest]
      cases written : writeBatch platform settings (logKind text choice.ids) ledger workerId jobId
          batch.toTelemetryBatch checked choice.clock with
      | error => exact nothing
      | ok outcome =>
          have drawn : BatchFits (logKind text choice.ids) ledger workerId jobId
              batch.toTelemetryBatch checked := ⟨fits.entries, fits.late⟩
          rcases writeBatch_permitted drawn written with same | ⟨stored, permitted⟩
          · simp only [committed, same]
            exact nothing
          · simp only [committed, stored]
            refine ⟨_, _, rfl, rfl, ?_⟩
            constructor
            · intro log member
              rcases List.mem_map.mp member with ⟨pair, pairMember, rfl⟩
              exact ⟨rfl, rfl, permitted pair pairMember⟩
            · exact fun _ member => nomatch member
  | metrics workerId jobId batch checked =>
      simp only [commitIngest]
      cases written : writeBatch platform settings (metricKind text) ledger workerId jobId
          batch.toTelemetryBatch checked choice.clock with
      | error => exact nothing
      | ok outcome =>
          rcases writeBatch_permitted fits written with same | ⟨stored, permitted⟩
          · simp only [committed, same]
            exact nothing
          · simp only [committed, stored]
            refine ⟨_, _, rfl, rfl, ?_⟩
            constructor
            · exact fun _ member => nomatch member
            · intro metric member
              rcases List.mem_map.mp member with ⟨pair, pairMember, rfl⟩
              exact ⟨rfl, rfl, permitted pair pairMember⟩

end

/-! ## Runs -/

/-- Nothing that is stored is above the watermarks of its attempt. -/
def TelemetrySealed (ledger : Ledger) : Prop :=
  ∀ attemptId attempt counts, ledger.attempts.find? attemptId = some attempt →
    attempt.telemetryCounts = some counts → Below ledger attemptId counts

section

variable (platform : Platform) (settings : Settings) {text : TelemetryText} {ledger : Ledger}

structure SealHeld (text : TelemetryText) (situation : Workforce.Situation Ledger IngestPhase) :
    Prop where
  sound : Sound situation.state.view
  sealed : TelemetrySealed situation.state
  fits : ∀ phase ∈ situation.phases, SealFits text situation.state phase

variable {situation : Workforce.Situation Ledger IngestPhase}

/-- A permitted row of a sealed attempt is below its watermark. -/
theorem Permitted.lt {claim : TelemetryClaim} {watermark : Nat × Nat → Nat} {now : Time}
    {sequence : Nat} {attempt : AttemptRow} {counts : Nat × Nat} (sound : Sound ledger.view)
    (permitted : Permitted ledger claim watermark now sequence)
    (found : ledger.attempts.find? claim.attemptId = some attempt)
    (counted : attempt.telemetryCounts = some counts) : sequence < watermark counts := by
  rcases permitted with ⟨lease, row, presents, running | ended⟩
  · rcases running with ⟨job, -, running⟩
    have unsealed := sound.unfinishedUnsealed (attemptView presents.attemptFound) running.unfinished
    rw [presents.attemptFound] at found
    rw [Option.some.inj found, show (Ledger.attemptState attempt).watermarks = some counts from
      counted] at unsealed
    cases unsealed
  · rcases ended with ⟨-, others, same, below⟩
    rw [presents.attemptFound] at found
    rw [Option.some.inj found, counted] at same
    exact Option.some.inj same ▸ below

theorem proceed_contributes (held : SealHeld text situation) {place : Nat} {phase : IngestPhase}
    (found : situation.phases[place]? = some phase) (choice : IngestChoice) :
    ∃ logs metrics,
      (commitIngest platform settings text situation.state choice phase).logs =
        situation.state.logs ++ logs ∧
      (commitIngest platform settings text situation.state choice phase).metrics =
        situation.state.metrics ++ metrics ∧
      Contributes situation.state phase choice.clock.lockedAt logs metrics :=
  commitIngest_contributes (held.fits phase (List.mem_of_getElem? found))

theorem appendsLawfully_step (held : SealHeld text situation)
    (event : Workforce.Event IngestRequest IngestChoice Operation) :
    AppendsLawfully situation event
      ((intake platform settings text).step situation event).state := by
  have unchanged : ∀ {next : Ledger}, SameTelemetry situation.state next →
      AppendsLawfully situation event next := by
    intro next same
    exact ⟨[], [], by rw [same.logs, List.append_nil], by rw [same.metrics, List.append_nil],
      .inl ⟨rfl, rfl⟩⟩
  cases event with
  | launch request =>
      simp only [Workforce.step]
      split
      · exact unchanged (.refl _)
      · next phase state launched =>
          rcases Option.map_eq_some_iff.mp launched with ⟨started, -, same⟩
          cases same
          exact unchanged (.refl _)
  | proceed place choice =>
      cases found : situation.phases[place]? with
      | none =>
          simp only [Workforce.step, found]
          exact unchanged (.refl _)
      | some phase =>
          rw [Workforce.step_proceed found, Workforce.state_move]
          rcases proceed_contributes platform settings held found
            choice with ⟨logs, metrics, newLogs, newMetrics, contributes⟩
          exact ⟨logs, metrics, newLogs, newMetrics, .inr ⟨place, choice, phase, rfl, found,
            contributes⟩⟩
  | stop place => exact unchanged (.refl _)
  | disturb operation => exact unchanged (perform_sameTelemetry platform settings _ operation)

/-- Ingests change nothing that the assignment protocol sees. -/
theorem step_view (text : TelemetryText) (situation : Workforce.Situation Ledger IngestPhase)
    (event : Workforce.Event IngestRequest IngestChoice Operation) :
    ((intake platform settings text).step situation event).state.view = situation.state.view ∨
      ∃ operation, event = .disturb operation := by
  cases event with
  | launch request =>
      refine .inl ?_
      simp only [Workforce.step]
      split
      · rfl
      · next phase state launched =>
          rcases Option.map_eq_some_iff.mp launched with ⟨started, -, same⟩
          cases same
          rfl
  | proceed place choice =>
      refine .inl ?_
      cases found : situation.phases[place]? with
      | none => simp only [Workforce.step, found]
      | some phase =>
          rw [Workforce.step_proceed found, Workforce.state_move]
          exact commitIngest_view choice phase
  | stop place => exact .inl rfl
  | disturb operation => exact .inr ⟨operation, rfl⟩

theorem step_does (held : SealHeld text situation)
    (event : Workforce.Event IngestRequest IngestChoice Operation) :
    Does (fun _ => True) situation.state.view
      ((intake platform settings text).step situation event).state.view := by
  rcases step_view platform settings text situation event with same | ⟨operation, rfl⟩
  · exact Does.of_eq same
  · exact perform_does platform settings operation held.sound

theorem telemetrySealed_step (held : SealHeld text situation)
    (event : Workforce.Event IngestRequest IngestChoice Operation) :
    TelemetrySealed ((intake platform settings text).step situation event).state := by
  intro attemptId attempt counts found counted
  rcases step_view platform settings text situation event with same | ⟨operation, rfl⟩
  · have earlier := attemptView found
    rw [same] at earlier
    rcases find?_map_eq_some earlier with ⟨old, oldFound, sameState⟩
    have oldCounted : old.telemetryCounts = some counts :=
      (congrArg Assignment.AttemptState.watermarks sameState).trans counted
    rcases held.sealed attemptId old counts oldFound oldCounted with ⟨oldLogs, oldMetrics⟩
    rcases appendsLawfully_step platform settings held event with
      ⟨logs, metrics, newLogs, newMetrics, ⟨rfl, rfl⟩ | ⟨place, choice, phase, -, -, contributes⟩⟩
    · unfold Below
      rw [newLogs, newMetrics, List.append_nil, List.append_nil]
      exact ⟨oldLogs, oldMetrics⟩
    · unfold Below
      rw [newLogs, newMetrics]
      constructor
      · intro log member ofAttempt
        rcases List.mem_append.mp member with isOld | isNew
        · exact oldLogs log isOld ofAttempt
        · rcases contributes.logs log isNew with ⟨-, ofPhase, permitted⟩
          exact permitted.lt held.sound (by rw [← ofPhase, ofAttempt, oldFound]) oldCounted
      · intro metric member ofAttempt
        rcases List.mem_append.mp member with isOld | isNew
        · exact oldMetrics metric isOld ofAttempt
        · rcases contributes.metrics metric isNew with ⟨-, ofPhase, permitted⟩
          exact permitted.lt held.sound (by rw [← ofPhase, ofAttempt, oldFound]) oldCounted
  · have telemetry := perform_sameTelemetry platform settings situation.state operation
    have below : Below situation.state attemptId counts := by
      rcases perform_sealedBelow held.sound operation attemptId attempt counts found counted with
        ⟨old, oldFound, oldCounted⟩ | below
      · exact held.sealed attemptId old counts oldFound oldCounted
      · exact below
    constructor
    · intro log member
      exact below.1 log (telemetry.logs ▸ member)
    · intro metric member
      exact below.2 metric (telemetry.metrics ▸ member)

theorem SealHeld.step (held : SealHeld text situation)
    (event : Workforce.Event IngestRequest IngestChoice Operation) :
    SealHeld text ((intake platform settings text).step situation event) where
  sound := (step_does platform settings held event).sound held.sound
  sealed := telemetrySealed_step platform settings held event
  fits := by
    have kept := sealKept_of_does (step_does platform settings held event)
    intro phase member
    cases event with
    | launch request =>
        simp only [Workforce.step] at member ⊢
        cases launched : (intake platform settings text).launch request situation.state with
        | none =>
            simp only [launched] at member ⊢
            exact held.fits phase member
        | some outcome =>
            rcases Option.map_eq_some_iff.mp launched with ⟨started, accepted, rfl⟩
            simp only [launched] at member ⊢
            rcases List.mem_append.mp member with earlier | last
            · exact held.fits phase earlier
            · rw [List.mem_singleton.mp last]
              exact launchIngest_sealFits accepted
    | proceed place choice =>
        cases found : situation.phases[place]? with
        | none =>
            simp only [Workforce.step, found] at member ⊢
            exact held.fits phase member
        | some own =>
            have earlier : phase ∈ situation.phases := by
              rw [Workforce.step_proceed found] at member
              exact List.mem_of_mem_eraseIdx member
            exact (held.fits phase earlier).kept kept
    | stop place => exact held.fits phase (List.mem_of_mem_eraseIdx member)
    | disturb operation => exact (held.fits phase member).kept kept

theorem SealHeld.run (held : SealHeld text situation)
    (events : List (Workforce.Event IngestRequest IngestChoice Operation)) :
    SealHeld text (Foundation.run (intake platform settings text).step situation events) := by
  apply run_preserves (SealHeld text)
  · intro situation event held
    exact held.step platform settings event
  · exact held

/-! ## Attempts without watermarks -/

def logsOf (attemptId : AttemptId) (ledger : Ledger) : List JobLog :=
  ledger.logs.filter fun log => log.attemptId = attemptId

def metricsOf (attemptId : AttemptId) (ledger : Ledger) : List Metric :=
  ledger.metrics.filter fun metric => metric.attemptId = attemptId

/-- The attempt is over and was never sealed. -/
def Unsealed (attemptId : AttemptId) (ledger : Ledger) : Prop :=
  ∃ attempt, ledger.attempts.find? attemptId = some attempt ∧ attempt.finishedAt ≠ none ∧
    attempt.telemetryCounts = none

/-- No row of such an attempt is permitted. -/
theorem Unsealed.not_permitted {claim : TelemetryClaim} {watermark : Nat × Nat → Nat} {now : Time}
    {sequence : Nat} (unsealed : Unsealed claim.attemptId ledger) :
    ¬Permitted ledger claim watermark now sequence := by
  rintro ⟨lease, row, presents, allowed⟩
  rcases unsealed with ⟨attempt, found, finished, uncounted⟩
  rw [presents.attemptFound] at found
  rcases Option.some.inj found with rfl
  rcases allowed with ⟨job, -, running⟩ | ⟨-, counts, counted, -⟩
  · exact finished running.unfinished
  · rw [uncounted] at counted
    cases counted

theorem Unsealed.step (held : SealHeld text situation) {attemptId : AttemptId}
    (unsealed : Unsealed attemptId situation.state)
    (event : Workforce.Event IngestRequest IngestChoice Operation) :
    Unsealed attemptId ((intake platform settings text).step situation event).state ∧
      logsOf attemptId ((intake platform settings text).step situation event).state =
        logsOf attemptId situation.state ∧
      metricsOf attemptId ((intake platform settings text).step situation event).state =
        metricsOf attemptId situation.state := by
  have kept := sealKept_of_does (step_does platform settings held event)
  constructor
  · rcases unsealed with ⟨attempt, found, finished, uncounted⟩
    rcases kept.attempt found finished with ⟨later, laterFound, same⟩
    refine ⟨later, laterFound, ?_, ?_⟩
    · rw [show later.finishedAt = attempt.finishedAt from
        congrArg Assignment.AttemptState.finishedAt same]
      exact finished
    · exact (congrArg Assignment.AttemptState.watermarks same).trans uncounted
  · rcases appendsLawfully_step platform settings held event with
      ⟨logs, metrics, newLogs, newMetrics, ⟨rfl, rfl⟩ | ⟨place, choice, phase, -, -, contributes⟩⟩
    · unfold logsOf metricsOf
      rw [newLogs, newMetrics, List.append_nil, List.append_nil]
      exact ⟨rfl, rfl⟩
    · have noLogs : logs.filter (fun log => log.attemptId = attemptId) = [] := by
        rw [List.filter_eq_nil_iff]
        intro log member ofAttempt
        rcases contributes.logs log member with ⟨-, ofPhase, permitted⟩
        rw [decide_eq_true_eq] at ofAttempt
        rw [← ofAttempt, ofPhase] at unsealed
        exact unsealed.not_permitted permitted
      have noMetrics : metrics.filter (fun metric => metric.attemptId = attemptId) = [] := by
        rw [List.filter_eq_nil_iff]
        intro metric member ofAttempt
        rcases contributes.metrics metric member with ⟨-, ofPhase, permitted⟩
        rw [decide_eq_true_eq] at ofAttempt
        rw [← ofAttempt, ofPhase] at unsealed
        exact unsealed.not_permitted permitted
      unfold logsOf metricsOf
      rw [newLogs, newMetrics, List.filter_append, List.filter_append, noLogs, noMetrics,
        List.append_nil, List.append_nil]
      exact ⟨rfl, rfl⟩

theorem Unsealed.run (held : SealHeld text situation) {attemptId : AttemptId}
    (unsealed : Unsealed attemptId situation.state)
    (events : List (Workforce.Event IngestRequest IngestChoice Operation)) :
    let later := (Foundation.run (intake platform settings text).step situation events).state
    logsOf attemptId later = logsOf attemptId situation.state ∧
      metricsOf attemptId later = metricsOf attemptId situation.state := by
  induction events generalizing situation with
  | nil => exact ⟨rfl, rfl⟩
  | cons event events induction =>
      rcases unsealed.step platform settings held event with
        ⟨still, sameLogs, sameMetrics⟩
      rcases induction (held.step platform settings event) still with ⟨restLogs, restMetrics⟩
      exact ⟨restLogs.trans sameLogs, restMetrics.trans sameMetrics⟩

end

/-- Whatever the order of ingests and other requests: nothing stored is above the watermarks
of its attempt, every row comes from an ingest of its own attempt, whose lease runs or
which has been sealed above it, and an attempt that ended without watermarks gains nothing. -/
theorem telemetry_sealed (platform : Platform) (settings : Settings) (text : TelemetryText)
    (events : List (Workforce.Event IngestRequest IngestChoice Operation)) :
    let situation := run (intake platform settings text).step ⟨.empty, []⟩ events
    TelemetrySealed situation.state ∧
      (∀ event, AppendsLawfully situation event
        ((intake platform settings text).step situation event).state) ∧
      ∀ attemptId further, Unsealed attemptId situation.state →
        let later := (run (intake platform settings text).step situation further).state
        logsOf attemptId later = logsOf attemptId situation.state ∧
          metricsOf attemptId later = metricsOf attemptId situation.state := by
  intro situation
  have start : SealHeld text ⟨.empty, []⟩ :=
    ⟨Sound.empty, fun _ _ _ found => (nomatch found), fun _ member => (nomatch member)⟩
  have held : SealHeld text situation := start.run platform settings events
  refine ⟨held.sealed, appendsLawfully_step platform settings held, ?_⟩
  intro attemptId further unsealed
  exact unsealed.run platform settings held further

end RvcOrchestrator.Manager

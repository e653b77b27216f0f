import RvcOrchestrator.Foundation.Workforce
import RvcOrchestrator.Manager.Ledger

/-! # Maintenance runs

An administrator asks for a cleanup of staging objects. The request becomes a row of the
ledger and a job of the queue. Workers execute the job under an attempt of the row, and a
reconciler looks after the rows that nothing has happened to for too long.
-/

namespace RvcOrchestrator.Manager

open RvcOrchestrator.Foundation RvcOrchestrator.Contracts

/-! ## Rows -/

abbrev MaintenanceRunId := Nat

abbrev StagingUploadId := Nat

inductive MaintenanceTaskName where
  | datasetStagingCleanup
  | testSetStagingCleanup
deriving DecidableEq

inductive MaintenanceStatus where
  | queued
  | running
  | retrying
  | completed
  | failed
  | enqueueFailed
deriving DecidableEq

structure MaintenanceSettings where
  maintenanceTaskTimeoutSeconds : Nat
  maintenanceTaskMaxAttempts : Nat
  /-- In microseconds. -/
  maintenanceReconcileInterval : Nat

/-- What `_job_identity` hashes. -/
structure MaintenanceIdentity where
  taskName : MaintenanceTaskName
  actorId : Nat
  dryRun : Bool
  idempotencyKey : String
deriving DecidableEq

/-- `DatasetCleanupResult` and its twin for test sets. -/
structure StagingCleanupResult where
  runId : MaintenanceRunId
  dryRun : Bool
  attempt : Nat
  examined : Nat
  eligible : Nat
  deleted : Nat
  skipped : Nat
  failed : Nat
  limitReached : Bool
  timeLimitReached : Bool
  sessionIds : List StagingUploadId
  failureCodes : List String
deriving DecidableEq

structure MaintenanceTaskRun where
  taskName : MaintenanceTaskName
  /-- The key hash and the identifier of the job. -/
  identity : MaintenanceIdentity
  dryRun : Bool
  status : MaintenanceStatus
  attemptCount : Nat
  maxAttempts : Nat
  result : Option StagingCleanupResult
  lastErrorCode : Option String
  queuedAt : Time
  startedAt : Option Time
  heartbeatAt : Option Time
  completedAt : Option Time
  updatedAt : Time
deriving DecidableEq

/-! ## The queue -/

structure EnqueuedMaintenanceTask where
  existing : Bool
  jobState : String
  repaired : Bool
deriving DecidableEq

/-- What an enqueue comes to. The queue may be reported unavailable although it has accepted
the job. -/
inductive QueueAnswer where
  | enqueued (task : EnqueuedMaintenanceTask)
  | conflict (code : String)
  | unavailable (accepted : Bool)
deriving DecidableEq

def QueueAnswer.accepted : QueueAnswer → Bool
  | enqueued task => task.jobState ≠ "missing"
  | conflict _ => false
  | unavailable accepted => accepted

/-- What `_enqueue_staging_cleanup` makes of a run that is neither at work nor at its end. -/
inductive EnqueueOutcome where
  | exhausted
  | enqueued
  | conflict (code : String)
  | unavailable
deriving DecidableEq

def QueueAnswer.outcome : QueueAnswer → EnqueueOutcome
  | enqueued _ => .enqueued
  | conflict code => .conflict code
  | unavailable _ => .unavailable

/-! ## What is written to a row -/

def MaintenanceStatus.Ended (status : MaintenanceStatus) : Prop :=
  status = .completed ∨ status = .failed

instance (status : MaintenanceStatus) : Decidable status.Ended :=
  inferInstanceAs (Decidable (_ ∨ _))

inductive StartOutcome where
  /-- `MaintenanceRunNotExecutable` -/
  | refused
  /-- There is nothing to execute. -/
  | settled (row : MaintenanceTaskRun)
  | started (row : MaintenanceTaskRun)
deriving DecidableEq

namespace MaintenanceTaskRun

variable (row : MaintenanceTaskRun)

def Exhausted : Prop := row.maxAttempts ≤ row.attemptCount

instance : Decidable row.Exhausted := inferInstanceAs (Decidable (_ ≤ _))

def OwnedBy (attempt : Nat) : Prop := row.status = .running ∧ row.attemptCount = attempt

instance (attempt : Nat) : Decidable (row.OwnedBy attempt) :=
  inferInstanceAs (Decidable (_ ∧ _))

def fail (now : Time) (code : String) : MaintenanceTaskRun :=
  { row with
    status := .failed
    lastErrorCode := some code
    completedAt := some now
    updatedAt := now }

def assign (now : Time) : EnqueueOutcome → MaintenanceTaskRun
  | .exhausted =>
      { row with
        status := .failed
        lastErrorCode := some "maintenance_attempts_exhausted"
        completedAt := some now }
  | .conflict code =>
      { row with status := .failed, lastErrorCode := some code, completedAt := some now }
  | .unavailable =>
      { row with
        status := .enqueueFailed
        lastErrorCode := some "maintenance_queue_unavailable" }
  | .enqueued => { row with status := .queued, queuedAt := now, lastErrorCode := none }

/-- A column that was assigned the value it had been loaded with is not written. -/
def column {Value : Type} [DecidableEq Value] (loaded assigned stored : Value) : Value :=
  if assigned = loaded then stored else assigned

/-- The flush of a run that was loaded and then assigned to. -/
def flush (now : Time) (loaded assigned : MaintenanceTaskRun) : MaintenanceTaskRun :=
  if assigned = loaded then row
  else
    { row with
      status := column loaded.status assigned.status row.status
      lastErrorCode := column loaded.lastErrorCode assigned.lastErrorCode row.lastErrorCode
      queuedAt := column loaded.queuedAt assigned.queuedAt row.queuedAt
      completedAt := column loaded.completedAt assigned.completedAt row.completedAt
      updatedAt := now }

/-- `_start_run` -/
def start (settings : MaintenanceSettings) (now : Time) (taskName : MaintenanceTaskName) :
    StartOutcome :=
  let staleBefore := now - seconds settings.maintenanceTaskTimeoutSeconds
  if row.taskName ≠ taskName then .refused
  else if row.status.Ended then .settled row
  else if row.status = .running ∧
      ∀ heartbeat ∈ row.heartbeatAt <|> row.startedAt, staleBefore < heartbeat then .refused
  else if row.status = .enqueueFailed then .refused
  else if row.Exhausted then .settled (row.fail now "maintenance_attempts_exhausted")
  else
    .started
      { row with
        status := .running
        attemptCount := row.attemptCount + 1
        startedAt := row.startedAt <|> some now
        heartbeatAt := some now
        lastErrorCode := none
        updatedAt := now }

def pulse (now : Time) : MaintenanceTaskRun :=
  { row with heartbeatAt := some now, updatedAt := now }

/-- `_finish_run` -/
def finish (now : Time) (result : StagingCleanupResult) : MaintenanceTaskRun :=
  let finished := { row with result := some result, heartbeatAt := some now, updatedAt := now }
  if 0 < result.failed ∧ row.attemptCount < row.maxAttempts then
    { finished with status := .retrying, lastErrorCode := some "staging_cleanup_deferred" }
  else if 0 < result.failed then
    { finished with
      status := .failed
      lastErrorCode := some "staging_cleanup_failed"
      completedAt := some now }
  else
    { finished with status := .completed, lastErrorCode := none, completedAt := some now }

/-- `_reconcile_candidate_predicate` -/
def ReconcileCandidate (settings : MaintenanceSettings) (now : Time) : Prop :=
  row.updatedAt ≤ now - settings.maintenanceReconcileInterval ∧
    (row.status = .queued ∨ row.status = .retrying ∨ row.status = .enqueueFailed ∨
      row.status = .running ∧
        ((row.heartbeatAt <|> row.startedAt).getD row.updatedAt) ≤
          now - seconds settings.maintenanceTaskTimeoutSeconds)

instance (settings : MaintenanceSettings) (now : Time) :
    Decidable (row.ReconcileCandidate settings now) :=
  inferInstanceAs (Decidable (_ ∧ _))

/-- `_reconcile_locked_run` -/
def reconcile (now : Time) : QueueAnswer → MaintenanceTaskRun
  | .conflict code => row.fail now code
  | .unavailable _ =>
      { row with
        status := if row.status = .running then .running else .enqueueFailed
        lastErrorCode := some "maintenance_queue_unavailable"
        updatedAt := now }
  | .enqueued task =>
      if row.Exhausted then
        if task.existing ∧ task.jobState = "started" then { row with updatedAt := now }
        else row.fail now "maintenance_attempts_exhausted"
      else if row.status = .enqueueFailed then
        { row with status := .queued, lastErrorCode := none, queuedAt := now, updatedAt := now }
      else { row with queuedAt := now, updatedAt := now }

def new (settings : MaintenanceSettings) (now : Time) (identity : MaintenanceIdentity) :
    MaintenanceTaskRun where
  taskName := identity.taskName
  identity := identity
  dryRun := identity.dryRun
  status := .queued
  attemptCount := 0
  maxAttempts := settings.maintenanceTaskMaxAttempts
  result := none
  lastErrorCode := none
  queuedAt := now
  startedAt := none
  heartbeatAt := none
  completedAt := none
  updatedAt := now

end MaintenanceTaskRun

/-! ## The state -/

structure MaintenanceStore where
  clock : Time
  /-- The identifier of a run is its place. -/
  rows : List MaintenanceTaskRun
  /-- The runs whose job the queue has accepted. -/
  jobs : List MaintenanceRunId

structure MaintenanceExecution where
  run : MaintenanceRunId
  attempt : Nat
deriving DecidableEq

namespace MaintenanceStore

def empty : MaintenanceStore where
  clock := 0
  rows := []
  jobs := []

variable (store : MaintenanceStore)

def runs (id : MaintenanceRunId) : Option MaintenanceTaskRun := store.rows[id]?

def setRun (id : MaintenanceRunId) (row : MaintenanceTaskRun) : MaintenanceStore :=
  { store with rows := store.rows.set id row }

def amendRun (id : MaintenanceRunId) (update : MaintenanceTaskRun → MaintenanceTaskRun) :
    MaintenanceStore :=
  match store.runs id with
  | none => store
  | some row => store.setRun id (update row)

def accept (id : MaintenanceRunId) (accepted : Bool) : MaintenanceStore :=
  if accepted then { store with jobs := id :: store.jobs } else store

def find (identity : MaintenanceIdentity) : Option MaintenanceRunId :=
  store.rows.findIdx? fun row => row.identity = identity

def create (row : MaintenanceTaskRun) : MaintenanceStore :=
  { store with rows := store.rows ++ [row] }

def OwnedBy (execution : MaintenanceExecution) : Prop :=
  ∃ row ∈ store.runs execution.run, row.OwnedBy execution.attempt

instance (execution : MaintenanceExecution) : Decidable (store.OwnedBy execution) :=
  inferInstanceAs (Decidable (∃ _ ∈ store.runs execution.run, _))

/-- `_RunHeartbeat.pulse`: the time is taken before the update. -/
def pulse (lag : Nat) (execution : MaintenanceExecution) : Option MaintenanceStore :=
  if store.OwnedBy execution then
    some (store.amendRun execution.run (·.pulse (store.clock - lag)))
  else none

/-- `_finish_run`, which raises if the execution does not own the run. -/
def finish (execution : MaintenanceExecution) (result : StagingCleanupResult) :
    MaintenanceStore :=
  if store.OwnedBy execution then store.amendRun execution.run (·.finish store.clock result)
  else store

end MaintenanceStore

/-! ## Executions -/

structure MaintenanceChoice where
  answer : QueueAnswer := .unavailable false
  candidates : List StagingUploadId := []
  limitReached : Bool := false
  /-- A guarded operation takes longer than the next heartbeat. -/
  waits : Bool := false
  /-- The task has used up its time. -/
  timeUp : Bool := false
  /-- How a claim or a deletion ends. -/
  error : Option String := none
  /-- How old the time of a heartbeat is when it is written. -/
  lag : Nat := 0
deriving DecidableEq

/-- The local variables of `run_dataset_staging_cleanup`. -/
structure CleanupWork where
  dryRun : Bool
  limitReached : Bool
  examined : Nat
  eligible : Nat
  deleted : Nat
  skipped : Nat
  failed : Nat
  timeLimitReached : Bool
  sessionIds : List StagingUploadId
  failureCodes : List String
  confirmationIds : List StagingUploadId
deriving DecidableEq

inductive ExecutionStage where
  /-- `_candidate_ids` -/
  | selecting
  | examining (remaining : List StagingUploadId)
  /-- `_claim_candidate` -/
  | claiming (upload : StagingUploadId) (remaining : List StagingUploadId)
  | claimed (upload : StagingUploadId) (remaining : List StagingUploadId)
  /-- `_delete_claimed_staging_object` -/
  | deleting (upload : StagingUploadId) (remaining : List StagingUploadId)
  /-- All candidates have been examined, or there is no time for more. -/
  | examined
  | sleeping
  | confirming (remaining : List StagingUploadId)
  | deletingAgain (upload : StagingUploadId) (remaining : List StagingUploadId)
  | finishing
  | recording
deriving DecidableEq

inductive ExecutionMove where
  | goes (work : CleanupWork) (stage : ExecutionStage)
  | pulses (work : CleanupWork) (stage : ExecutionStage)
  | finishes (work : CleanupWork)

namespace CleanupWork

def new (dryRun : Bool) : CleanupWork where
  dryRun := dryRun
  limitReached := false
  examined := 0
  eligible := 0
  deleted := 0
  skipped := 0
  failed := 0
  timeLimitReached := false
  sessionIds := []
  failureCodes := []
  confirmationIds := []

variable (work : CleanupWork)

def skip (code : String) : CleanupWork :=
  { work with skipped := work.skipped + 1, failureCodes := work.failureCodes ++ [code] }

def failing (code : String) : CleanupWork :=
  { work with failed := work.failed + 1, failureCodes := work.failureCodes ++ [code] }

def cleaned (upload : StagingUploadId) : Option String → CleanupWork
  | none => { work with deleted := work.deleted + 1 }
  | some code =>
      if code = "confirmation_pending" ∨ code = "confirmation_not_due" then
        { work with confirmationIds := work.confirmationIds ++ [upload] }
      else if code = "cleanup_claim_lost" then work.skip code
      else work.failing code

def cleanedAgain : Option String → CleanupWork
  | none => { work with deleted := work.deleted + 1 }
  | some code => if code = "cleanup_claim_lost" then work.skip code else work.failing code

def result (execution : MaintenanceExecution) : StagingCleanupResult where
  runId := execution.run
  dryRun := work.dryRun
  attempt := execution.attempt
  examined := work.examined
  eligible := work.eligible
  deleted := work.deleted
  skipped := work.skipped
  failed := work.failed
  limitReached := work.limitReached
  timeLimitReached := work.timeLimitReached
  sessionIds := work.sessionIds
  failureCodes := work.failureCodes

/-- `run_dataset_staging_cleanup` from one heartbeat to the next. -/
def move (choice : MaintenanceChoice) : ExecutionStage → ExecutionMove
  | .selecting =>
      .pulses { work with limitReached := choice.limitReached } (.examining choice.candidates)
  | .examining [] => .goes work .examined
  | .examining (upload :: remaining) =>
      if choice.timeUp then .goes { work with timeLimitReached := true } .examined
      else .pulses { work with examined := work.examined + 1 } (.claiming upload remaining)
  | .claiming upload remaining =>
      if choice.waits then .pulses work (.claiming upload remaining)
      else
        match choice.error with
        | some code => .pulses (work.skip code) (.examining remaining)
        | none =>
            let eligible := { work with
              eligible := work.eligible + 1
              sessionIds := work.sessionIds ++ [upload] }
            if work.dryRun then .pulses eligible (.examining remaining)
            else .pulses eligible (.claimed upload remaining)
  | .claimed upload remaining => .pulses work (.deleting upload remaining)
  | .deleting upload remaining =>
      if choice.waits then .pulses work (.deleting upload remaining)
      else .pulses (work.cleaned upload choice.error) (.examining remaining)
  | .examined =>
      if work.confirmationIds = [] ∨ work.dryRun then .goes work .finishing
      else if work.timeLimitReached ∨ choice.timeUp then
        .goes
          { work with
            failed := work.failed + work.confirmationIds.length
            failureCodes := work.failureCodes ++
              work.confirmationIds.map fun _ => "confirmation_time_limit"
            timeLimitReached := true }
          .finishing
      else .goes work .sleeping
  | .sleeping =>
      if choice.waits then .pulses work .sleeping
      else .goes work (.confirming work.confirmationIds)
  | .confirming [] => .goes work .finishing
  | .confirming (upload :: remaining) =>
      if choice.timeUp then
        .goes { work.failing "confirmation_time_limit" with timeLimitReached := true }
          (.confirming remaining)
      else .pulses work (.deletingAgain upload remaining)
  | .deletingAgain upload remaining =>
      if choice.waits then .pulses work (.deletingAgain upload remaining)
      else .pulses (work.cleanedAgain choice.error) (.confirming remaining)
  | .finishing => .pulses work .recording
  | .recording => .finishes work

end CleanupWork

/-! ## Processes -/

inductive MaintenancePhase where
  /-- A request before it locks the row. -/
  | requested (identity : MaintenanceIdentity)
  /-- It has found no row. -/
  | creating (identity : MaintenanceIdentity)
  /-- Another request was faster, and the row is read again, this time without a lock. -/
  | reloading (identity : MaintenanceIdentity)
  /-- It is about to call the queue and holds no lock. -/
  | enqueueing (id : MaintenanceRunId) (loaded : MaintenanceTaskRun)
  /-- It is about to commit what came of it. -/
  | answered (id : MaintenanceRunId) (loaded : MaintenanceTaskRun) (outcome : EnqueueOutcome)
  | executing (execution : MaintenanceExecution) (work : CleanupWork) (stage : ExecutionStage)
deriving DecidableEq

inductive MaintenanceLaunch where
  | request (identity : MaintenanceIdentity)
  | execute (taskName : MaintenanceTaskName) (id : MaintenanceRunId)
deriving DecidableEq

inductive MaintenanceDisturbance where
  | tick (elapsed : Nat)
  /-- The queue accepts a job, and the transaction that asked for it does not commit. -/
  | accept (id : MaintenanceRunId)
  /-- A worker takes a job that `_start_run` does not start. -/
  | settle (taskName : MaintenanceTaskName) (id : MaintenanceRunId)
  /-- The reconciler handles a row. Its cycle began some time before. -/
  | reconcile (id : MaintenanceRunId) (elapsed : Nat) (answer : QueueAnswer)
deriving DecidableEq

section

variable (settings : MaintenanceSettings)

/-- A request that holds no lock goes on with the run it has loaded. -/
def continueEnqueue (id : MaintenanceRunId) (loaded : MaintenanceTaskRun) : MaintenancePhase :=
  if loaded.Exhausted then .answered id loaded .exhausted else .enqueueing id loaded

/-- `_enqueue_staging_cleanup` of a run whose row it has locked. -/
def enqueueLocked (store : MaintenanceStore) (answer : QueueAnswer) (id : MaintenanceRunId)
    (row : MaintenanceTaskRun) : MaintenanceStore :=
  if row.status = .running ∨ row.status.Ended then store
  else if row.Exhausted then
    store.setRun id (row.flush store.clock row (row.assign store.clock .exhausted))
  else
    (store.accept id answer.accepted).setRun id
      (row.flush store.clock row (row.assign store.clock answer.outcome))

def advanceMaintenance (choice : MaintenanceChoice) (phase : MaintenancePhase)
    (store : MaintenanceStore) : Option MaintenancePhase × MaintenanceStore :=
  match phase with
  | .requested identity =>
      match store.find identity with
      | none => (some (.creating identity), store)
      | some id =>
          match store.runs id with
          | none => (none, store)
          | some row => (none, enqueueLocked store choice.answer id row)
  | .creating identity =>
      match store.find identity with
      | some _ => (some (.reloading identity), store)
      | none =>
          let row := MaintenanceTaskRun.new settings store.clock identity
          (some (continueEnqueue store.rows.length row), store.create row)
  | .reloading identity =>
      match store.find identity with
      | none => (none, store)
      | some id =>
          match store.runs id with
          | none => (none, store)
          | some row =>
              if row.status = .running ∨ row.status.Ended then (none, store)
              else (some (continueEnqueue id row), store)
  | .enqueueing id loaded =>
      (some (.answered id loaded choice.answer.outcome), store.accept id choice.answer.accepted)
  | .answered id loaded outcome =>
      (none, store.amendRun id (·.flush store.clock loaded (loaded.assign store.clock outcome)))
  | .executing execution work stage =>
      match work.move choice stage with
      | .goes work stage => (some (.executing execution work stage), store)
      | .pulses work stage =>
          match store.pulse choice.lag execution with
          | none => (none, store)
          | some after => (some (.executing execution work stage), after)
      | .finishes work => (none, store.finish execution (work.result execution))

def launchMaintenance (launch : MaintenanceLaunch) (store : MaintenanceStore) :
    Option (MaintenancePhase × MaintenanceStore) :=
  match launch with
  | .request identity => some (.requested identity, store)
  | .execute taskName id =>
      match store.runs id with
      | none => none
      | some row =>
          match row.start settings store.clock taskName with
          | .started next =>
              if id ∈ store.jobs then
                some (.executing ⟨id, next.attemptCount⟩ (.new next.dryRun) .selecting,
                  store.setRun id next)
              else none
          | _ => none

def disturbMaintenance (disturbance : MaintenanceDisturbance) (store : MaintenanceStore) :
    Option MaintenanceStore :=
  match disturbance with
  | .tick elapsed => some { store with clock := store.clock + elapsed }
  | .accept id => if (store.runs id).isSome then some (store.accept id true) else none
  | .settle taskName id =>
      match store.runs id with
      | none => none
      | some row =>
          match row.start settings store.clock taskName with
          | .settled next => if id ∈ store.jobs then some (store.setRun id next) else none
          | _ => none
  | .reconcile id elapsed answer =>
      match store.runs id with
      | none => none
      | some row =>
          if row.ReconcileCandidate settings (store.clock - elapsed) then
            some ((store.accept id answer.accepted).setRun id
              (row.reconcile (store.clock - elapsed) answer))
          else none

def maintenanceWorkforce : Workforce MaintenanceStore MaintenancePhase MaintenanceLaunch
    MaintenanceChoice MaintenanceDisturbance where
  launch := launchMaintenance settings
  advance := advanceMaintenance settings
  disturb := disturbMaintenance settings

abbrev MaintenanceSituation := Workforce.Situation MaintenanceStore MaintenancePhase

abbrev MaintenanceEvent :=
  Workforce.Event MaintenanceLaunch MaintenanceChoice MaintenanceDisturbance

/-- The situation after `events`, from an empty ledger. -/
def maintenanceRun (events : List MaintenanceEvent) : MaintenanceSituation :=
  run (maintenanceWorkforce settings).step ⟨.empty, []⟩ events

end

end RvcOrchestrator.Manager

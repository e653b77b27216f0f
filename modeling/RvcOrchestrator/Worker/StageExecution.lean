import RvcOrchestrator.Foundation.Execution
import RvcOrchestrator.Worker.ActiveJob
import RvcOrchestrator.Worker.ClaimRuntime
import RvcOrchestrator.Worker.StageErrors

/-! # The execution of a claim

A Worker takes a Job through its stages and reports each of them. Heartbeats, lease and deadline
loops and the telemetry may stop the Job wherever the execution awaits something.
-/

namespace RvcOrchestrator.Worker

open RvcOrchestrator.Foundation RvcOrchestrator.Contracts

/-! ## Stopping a Job -/

structure RunningJob extends ActiveJob where
  fatalError : Option WorkerException
  currentStage : JobStatus

namespace RunningJob

def cancel (job : RunningJob) (reason : String) : RunningJob :=
  { job with
    toActiveJob := job.toActiveJob.cancel reason
    fatalError := none }

def fail (job : RunningJob) (error : WorkerException) (reason : String) : RunningJob :=
  if job.cancellation.isSome then job
  else
    { job with
      cancellation := some reason
      fatalError := some error }

end RunningJob

/-! ## Stages -/

def buildStagePlan (config : JobConfig) : List JobStatus :=
  [.downloadingDataset, .validatingDataset, .preparingFlatDataset, .preprocessing] ++
    (if config.model.useF0 then [.extractingF0] else []) ++
    [.extractingFeatures, .training, .savingCheckpoint] ++
    (if config.index.buildIndex then [.buildingIndex] else []) ++
    [.collectingSmallModel] ++
    (if config.autoInferenceSamples.enabled then [.generatingSamples] else []) ++
    [.evaluating, .uploadingArtifacts]

structure StatusReport where
  status : JobStatus
  errorCode : Option String
  errorMessage : Option String
deriving DecidableEq

def StatusReport.plain (status : JobStatus) : StatusReport := ⟨status, none, none⟩

def StageFailure.report : StageFailure → StatusReport
  | .cancelled _ => .plain .cancelled
  | .failed error => ⟨.failed, some error.errorCode, some error.safeMessage⟩

/-- What the execution awaits. A terminal status is sent after the telemetry has been sealed. -/
inductive Await where
  | preparing
  | reportingStage (stage : JobStatus) (rest : List JobStatus)
  | runningStage (stage : JobStatus) (rest : List JobStatus)
  | recordingStage (stage : JobStatus) (rest : List JobStatus)
  | sealingCompleted
  | sendingCompleted
  | sealingFailure (report : StatusReport)
  | sendingFailure (report : StatusReport)
  | finished (completed : Bool)
deriving DecidableEq

structure ClaimExecution where
  job : RunningJob
  await : Await
  /-- Every status that has been sent to the Manager, the first first. -/
  sent : List StatusReport

inductive ExecutionEvent where
  | cancel (reason : String)
  | fail (error : WorkerException) (reason : String)
  /-- What is awaited returns, or raises. -/
  | returned
  | raised (exception : WorkerException)

namespace ClaimExecution

def handle (execution : ClaimExecution) (exception : WorkerException) : ClaimExecution :=
  let job := execution.job
  let failure :=
    match job.fatalError with
    | some fatalError => classifyStageException job.currentStage fatalError false
    | none => classifyStageException job.currentStage exception job.cancellation.isSome
  { execution with await := .sealingFailure failure.report }

def raiseInStage (execution : ClaimExecution) (stage : JobStatus)
    (exception : WorkerException) : ClaimExecution :=
  if exception.error.IsPlain [.cancelledError] then
    execution.handle (StageFailure.cancelled stage).exception
  else
    execution.handle
      (classifyStageException stage exception execution.job.cancellation.isSome).exception

def invalidTransition : WorkerException := ⟨.plain .other, []⟩

def nextStage (execution : ClaimExecution) (current : JobStatus) :
    List JobStatus → ClaimExecution
  | stage :: rest =>
      if execution.job.cancellation.isSome then
        execution.handle (StageFailure.cancelled stage).exception
      else if ¬canTransitionJob current stage false then
        execution.raiseInStage stage invalidTransition
      else
        { execution with
          await := .reportingStage stage rest
          sent := execution.sent ++ [.plain stage] }
  | [] =>
      if execution.job.cancellation.isSome then
        execution.handle (StageFailure.cancelled .completed).exception
      else if ¬canTransitionJob current .completed false then
        execution.raiseInStage .completed invalidTransition
      else { execution with await := .sealingCompleted }

def start (claim : JobClaim) (now : Time) : ClaimExecution :=
  let execution : ClaimExecution :=
    { job := { toActiveJob := .start claim now, fatalError := none, currentStage := .assigned }
      await := .preparing
      sent := [] }
  if claim.leaseExpiresAt ≤ now then
    execution.handle (StageFailure.cancelled .assigned).exception
  else execution

def resume (execution : ClaimExecution) : ClaimExecution :=
  match execution.await with
  | .preparing => execution.nextStage .assigned (buildStagePlan execution.job.claim.config)
  | .reportingStage stage rest =>
      { execution with
        job := { execution.job with currentStage := stage }
        await := .runningStage stage rest }
  | .runningStage stage rest =>
      if execution.job.cancellation.isSome then
        execution.raiseInStage stage (StageFailure.cancelled stage).exception
      else { execution with await := .recordingStage stage rest }
  | .recordingStage stage rest => execution.nextStage stage rest
  | .sealingCompleted =>
      { execution with
        await := .sendingCompleted
        sent := execution.sent ++ [.plain .completed] }
  | .sendingCompleted => { execution with await := .finished true }
  | .sealingFailure report =>
      { execution with
        await := .sendingFailure report
        sent := execution.sent ++ [report] }
  | .sendingFailure _ => { execution with await := .finished false }
  | .finished _ => execution

/-- The preparation is the one place where a cancelled task is not turned into a failure. -/
def throw (execution : ClaimExecution) (exception : WorkerException) : ClaimExecution :=
  match execution.await with
  | .preparing =>
      if exception.error.IsPlain [.cancelledError] then { execution with await := .finished false }
      else execution.handle exception
  | .reportingStage stage _ => execution.raiseInStage stage exception
  | .runningStage stage _ => execution.raiseInStage stage exception
  | .recordingStage stage _ => execution.raiseInStage stage exception
  | .sealingCompleted => execution.raiseInStage .completed exception
  | .sendingCompleted => execution.raiseInStage .completed exception
  | .sealingFailure _ => { execution with await := .finished false }
  | .sendingFailure _ => { execution with await := .finished false }
  | .finished _ => execution

end ClaimExecution

def stepExecution (execution : ClaimExecution) : ExecutionEvent → ClaimExecution
  | .cancel reason => { execution with job := execution.job.cancel reason }
  | .fail error reason => { execution with job := execution.job.fail error reason }
  | .returned => execution.resume
  | .raised exception => execution.throw exception

/-! ## Who stopped a Job -/

/-- The Job was cancelled by a call, which includes a lease that has expired before the start. -/
def ExplicitlyCancelled (claim : JobClaim) (now : Time) (events : List ExecutionEvent) : Prop :=
  claim.leaseExpiresAt ≤ now ∨ ∃ reason, .cancel reason ∈ events

def ExecutionEvent.failure : ExecutionEvent → Option WorkerException
  | fail error _ => some error
  | _ => none

def firstFailure (events : List ExecutionEvent) : Option WorkerException :=
  events.findSome? ExecutionEvent.failure

/-- What the calls so far have left in the Job: a cancellation wins over every failure, and
otherwise the first failure is kept. -/
structure Controlled (claim : JobClaim) (now : Time) (events : List ExecutionEvent)
    (job : RunningJob) : Prop where
  cancelled : ExplicitlyCancelled claim now events →
    job.cancellation.isSome = true ∧ job.fatalError = none
  failed : ¬ExplicitlyCancelled claim now events →
    job.fatalError = firstFailure events ∧
      job.cancellation.isSome = (firstFailure events).isSome

theorem firstFailure_concat (events : List ExecutionEvent) (event : ExecutionEvent) :
    firstFailure (events ++ [event]) = (firstFailure events).or event.failure := by
  rw [firstFailure, firstFailure, List.findSome?_append, List.findSome?_singleton]

theorem explicitlyCancelled_concat {claim : JobClaim} {now : Time}
    {events : List ExecutionEvent} {event : ExecutionEvent} :
    ExplicitlyCancelled claim now (events ++ [event]) ↔
      ExplicitlyCancelled claim now events ∨ ∃ reason, event = .cancel reason := by
  constructor
  · rintro (expired | ⟨reason, member⟩)
    · exact .inl (.inl expired)
    · rcases List.mem_append.mp member with old | new
      · exact .inl (.inr ⟨reason, old⟩)
      · exact .inr ⟨reason, (List.mem_singleton.mp new).symm⟩
  · rintro ((expired | ⟨reason, member⟩) | ⟨reason, rfl⟩)
    · exact .inl expired
    · exact .inr ⟨reason, List.mem_append_left _ member⟩
    · exact .inr ⟨reason, List.mem_append_right _ List.mem_cons_self⟩

/-- Nothing but a call changes who stopped a Job. -/
structure SameControl (before after : RunningJob) : Prop where
  cancellation : after.cancellation = before.cancellation
  fatalError : after.fatalError = before.fatalError

theorem SameControl.refl (job : RunningJob) : SameControl job job := ⟨rfl, rfl⟩

section

variable {claim : JobClaim} {now : Time} {events : List ExecutionEvent}

theorem Controlled.sameControl {before after : RunningJob}
    (controlled : Controlled claim now events before) (same : SameControl before after) :
    Controlled claim now events after := by
  constructor
  · rw [same.cancellation, same.fatalError]
    exact controlled.cancelled
  · rw [same.cancellation, same.fatalError]
    exact controlled.failed

theorem Controlled.other {event : ExecutionEvent} {job : RunningJob}
    (controlled : Controlled claim now events job)
    (noCancel : ∀ reason, event ≠ .cancel reason) (noFailure : event.failure = none) :
    Controlled claim now (events ++ [event]) job := by
  have same : ExplicitlyCancelled claim now (events ++ [event]) ↔
      ExplicitlyCancelled claim now events := by
    rw [explicitlyCancelled_concat]
    exact or_iff_left fun ⟨reason, equal⟩ => noCancel reason equal
  constructor
  · rw [same]
    exact controlled.cancelled
  · rw [same, firstFailure_concat, noFailure, Option.or_none]
    exact controlled.failed

theorem Controlled.cancel {job : RunningJob} (reason : String) :
    Controlled claim now (events ++ [.cancel reason]) (job.cancel reason) := by
  constructor
  · intro _
    exact ⟨rfl, rfl⟩
  · intro noCancel
    exact absurd (explicitlyCancelled_concat.mpr (.inr ⟨reason, rfl⟩)) noCancel

theorem Controlled.fail {job : RunningJob} (controlled : Controlled claim now events job)
    (error : WorkerException) (reason : String) :
    Controlled claim now (events ++ [.fail error reason]) (job.fail error reason) := by
  have same : ExplicitlyCancelled claim now (events ++ [.fail error reason]) ↔
      ExplicitlyCancelled claim now events := by
    rw [explicitlyCancelled_concat]
    apply or_iff_left
    rintro ⟨other, equal⟩
    cases equal
  have first : firstFailure (events ++ [.fail error reason]) =
      (firstFailure events).or (some error) := firstFailure_concat _ _
  constructor
  · intro cancelled
    have before := controlled.cancelled (same.mp cancelled)
    rw [RunningJob.fail, if_pos before.1]
    exact before
  · intro notCancelled
    have before := controlled.failed fun cancelled => notCancelled (same.mpr cancelled)
    rw [first, RunningJob.fail]
    cases failure : firstFailure events with
    | none =>
        rw [failure] at before
        have free : ¬job.cancellation.isSome = true := by
          rw [before.2]
          exact Bool.false_ne_true
        rw [if_neg free]
        exact ⟨rfl, rfl⟩
    | some earlier =>
        rw [failure] at before
        have held : job.cancellation.isSome = true := before.2
        rw [if_pos held]
        exact before

end

/-! ## What a turn can do -/

def ClaimExecution.remaining (execution : ClaimExecution) : List JobStatus :=
  match execution.await with
  | .preparing => buildStagePlan execution.job.claim.config
  | .reportingStage _ rest => rest
  | .runningStage _ rest => rest
  | .recordingStage _ rest => rest
  | _ => []

def Await.Executing : Await → Prop
  | sealingFailure _ => False
  | sendingFailure _ => False
  | finished _ => False
  | _ => True

def Await.BeforeCompletion : Await → Prop
  | preparing => True
  | reportingStage _ _ => True
  | runningStage _ _ => True
  | recordingStage _ _ => True
  | _ => False

inductive Turn (execution : ClaimExecution) : ClaimExecution → Prop
  | handled (exception : WorkerException) : Turn execution (execution.handle exception)
  | abandoned : Turn execution { execution with await := .finished false }
  | reports (stage : JobStatus) (rest : List JobStatus)
      (before : execution.await.BeforeCompletion) (next : execution.remaining = stage :: rest) :
      Turn execution
        { execution with
          await := .reportingStage stage rest
          sent := execution.sent ++ [.plain stage] }
  | runs (stage : JobStatus) (rest : List JobStatus)
      (before : execution.await = .reportingStage stage rest) :
      Turn execution
        { execution with
          job := { execution.job with currentStage := stage }
          await := .runningStage stage rest }
  | records (stage : JobStatus) (rest : List JobStatus)
      (before : execution.await = .runningStage stage rest) :
      Turn execution { execution with await := .recordingStage stage rest }
  | seals (before : execution.await.BeforeCompletion)
      (free : execution.job.cancellation.isSome = false) :
      Turn execution { execution with await := .sealingCompleted }
  | sends (before : execution.await = .sealingCompleted) :
      Turn execution
        { execution with
          await := .sendingCompleted
          sent := execution.sent ++ [.plain .completed] }
  | completes (before : execution.await = .sendingCompleted) :
      Turn execution { execution with await := .finished true }

namespace ClaimExecution

variable {execution : ClaimExecution}

theorem raiseInStage_turn (stage : JobStatus) (exception : WorkerException) :
    Turn execution (execution.raiseInStage stage exception) := by
  unfold raiseInStage
  split
  · exact .handled _
  · exact .handled _

theorem nextStage_turn (before : execution.await.BeforeCompletion) (current : JobStatus) :
    Turn execution (execution.nextStage current execution.remaining) := by
  cases next : execution.remaining with
  | nil =>
      rw [nextStage]
      split
      · exact .handled _
      · next free =>
          split
          · exact raiseInStage_turn _ _
          · exact .seals before (Bool.eq_false_of_not_eq_true free)
  | cons stage rest =>
      rw [nextStage]
      split
      · exact .handled _
      · split
        · exact raiseInStage_turn _ _
        · exact .reports stage rest before next

theorem resume_turn (executing : execution.await.Executing) : Turn execution execution.resume := by
  unfold resume
  split
  · next awaited =>
      have turn : Turn execution (execution.nextStage .assigned execution.remaining) :=
        nextStage_turn (by rw [awaited]; trivial) .assigned
      rw [remaining, awaited] at turn
      exact turn
  · next stage rest awaited => exact .runs stage rest awaited
  · next stage rest awaited =>
      split
      · exact raiseInStage_turn _ _
      · exact .records stage rest awaited
  · next stage rest awaited =>
      have turn : Turn execution (execution.nextStage stage execution.remaining) :=
        nextStage_turn (by rw [awaited]; trivial) stage
      rw [remaining, awaited] at turn
      exact turn
  · next awaited => exact .sends awaited
  · next awaited => exact .completes awaited
  · next awaited =>
      rw [awaited] at executing
      cases executing
  · next awaited =>
      rw [awaited] at executing
      cases executing
  · next awaited =>
      rw [awaited] at executing
      cases executing

theorem throw_turn (exception : WorkerException) (executing : execution.await.Executing) :
    Turn execution (execution.throw exception) := by
  unfold throw
  split
  · split
    · exact .abandoned
    · exact .handled _
  · exact raiseInStage_turn _ _
  · exact raiseInStage_turn _ _
  · exact raiseInStage_turn _ _
  · exact raiseInStage_turn _ _
  · exact raiseInStage_turn _ _
  · next awaited =>
      rw [awaited] at executing
      cases executing
  · next awaited =>
      rw [awaited] at executing
      cases executing
  · next awaited =>
      rw [awaited] at executing
      cases executing

end ClaimExecution

theorem Turn.sameControl {execution after : ClaimExecution} (turn : Turn execution after) :
    SameControl execution.job after.job := by
  cases turn <;> exact ⟨rfl, rfl⟩

/-- What happens after an exception has ended the execution, or after its end. -/
inductive Closing (execution : ClaimExecution) : ClaimExecution → Prop
  | sends (report : StatusReport) (before : execution.await = .sealingFailure report) :
      Closing execution
        { execution with
          await := .sendingFailure report
          sent := execution.sent ++ [report] }
  | ends (before : ∀ completed, execution.await ≠ .finished completed) :
      Closing execution { execution with await := .finished false }
  | rests (completed : Bool) (before : execution.await = .finished completed) :
      Closing execution execution

namespace ClaimExecution

variable {execution : ClaimExecution}

theorem resume_closing (closed : ¬execution.await.Executing) :
    Closing execution execution.resume := by
  unfold resume
  cases awaited : execution.await with
  | sealingFailure report => exact .sends report awaited
  | sendingFailure report =>
      apply Closing.ends
      rw [awaited]
      intro completed same
      cases same
  | finished completed => exact .rests completed awaited
  | _ =>
      rw [awaited] at closed
      exact absurd trivial closed

theorem throw_closing (exception : WorkerException) (closed : ¬execution.await.Executing) :
    Closing execution (execution.throw exception) := by
  unfold throw
  cases awaited : execution.await with
  | sealingFailure report =>
      apply Closing.ends
      rw [awaited]
      intro completed same
      cases same
  | sendingFailure report =>
      apply Closing.ends
      rw [awaited]
      intro completed same
      cases same
  | finished completed => exact .rests completed awaited
  | _ =>
      rw [awaited] at closed
      exact absurd trivial closed

end ClaimExecution

/-- A step is a call from another task, a turn of the execution or one of its closing. -/
inductive StepCase (execution : ClaimExecution) : ClaimExecution → Prop
  | called (job : RunningJob) (claim : job.claim = execution.job.claim)
      (stays : execution.job.cancellation.isSome → job.cancellation.isSome) :
      StepCase execution { execution with job := job }
  | turned {after : ClaimExecution} (executing : execution.await.Executing)
      (turn : Turn execution after) : StepCase execution after
  | closed {after : ClaimExecution} (closed : ¬execution.await.Executing)
      (closing : Closing execution after) : StepCase execution after

theorem RunningJob.fail_claim (job : RunningJob) (error : WorkerException) (reason : String) :
    (job.fail error reason).claim = job.claim := by
  unfold fail
  split
  · rfl
  · rfl

theorem RunningJob.fail_cancellation (job : RunningJob) (error : WorkerException)
    (reason : String) : (job.fail error reason).cancellation.isSome = true := by
  unfold fail
  split
  · next set => exact set
  · rfl

theorem stepExecution_cases (execution : ClaimExecution) (event : ExecutionEvent) :
    StepCase execution (stepExecution execution event) := by
  cases event with
  | cancel reason => exact .called _ rfl fun _ => rfl
  | fail error reason =>
      exact .called _ (RunningJob.fail_claim _ _ _) fun _ => RunningJob.fail_cancellation _ _ _
  | returned =>
      by_cases executing : execution.await.Executing
      · exact .turned executing (ClaimExecution.resume_turn executing)
      · exact .closed executing (ClaimExecution.resume_closing executing)
  | raised exception =>
      by_cases executing : execution.await.Executing
      · exact .turned executing (ClaimExecution.throw_turn exception executing)
      · exact .closed executing (ClaimExecution.throw_closing exception executing)

theorem Closing.sameJob {execution after : ClaimExecution} (closing : Closing execution after) :
    after.job = execution.job := by
  cases closing <;> rfl

/-! ## Runs -/

theorem start_job (claim : JobClaim) (now : Time) :
    (ClaimExecution.start claim now).job =
      { toActiveJob := .start claim now, fatalError := none, currentStage := .assigned } := by
  unfold ClaimExecution.start
  split
  · rfl
  · rfl

theorem start_controlled (claim : JobClaim) (now : Time) :
    Controlled claim now [] (ClaimExecution.start claim now).job := by
  rw [start_job]
  constructor
  · rintro (expired | ⟨reason, member⟩)
    · apply And.intro _ rfl
      simp only [ActiveJob.start, if_pos expired, Option.isSome_some]
    · cases member
  · intro notCancelled
    have open_ : ¬claim.leaseExpiresAt ≤ now := fun expired => notCancelled (.inl expired)
    apply And.intro rfl
    simp only [ActiveJob.start, if_neg open_]
    rfl

theorem step_controlled {claim : JobClaim} {now : Time} {events : List ExecutionEvent}
    {execution : ClaimExecution} (controlled : Controlled claim now events execution.job)
    (event : ExecutionEvent) :
    Controlled claim now (events ++ [event]) (stepExecution execution event).job := by
  have settled (after : ClaimExecution)
      (settling : execution.await.Executing ∧ Turn execution after ∨
        ¬execution.await.Executing ∧ Closing execution after) :
      SameControl execution.job after.job := by
    rcases settling with ⟨-, turn⟩ | ⟨-, closing⟩
    · exact turn.sameControl
    · rw [closing.sameJob]
      exact .refl _
  cases event with
  | cancel reason => exact .cancel reason
  | fail error reason => exact controlled.fail error reason
  | returned =>
      apply Controlled.other _ _ rfl
      · apply controlled.sameControl
        apply settled
        by_cases executing : execution.await.Executing
        · exact .inl ⟨executing, ClaimExecution.resume_turn executing⟩
        · exact .inr ⟨executing, ClaimExecution.resume_closing executing⟩
      · intro reason same
        cases same
  | raised exception =>
      apply Controlled.other _ _ rfl
      · apply controlled.sameControl
        apply settled
        by_cases executing : execution.await.Executing
        · exact .inl ⟨executing, ClaimExecution.throw_turn exception executing⟩
        · exact .inr ⟨executing, ClaimExecution.throw_closing exception executing⟩
      · intro reason same
        cases same

theorem run_controlled (claim : JobClaim) (now : Time) (events : List ExecutionEvent) :
    Controlled claim now events (run stepExecution (.start claim now) events).job := by
  induction events using List.reverseRecOn with
  | nil => exact start_controlled claim now
  | append_singleton events event induction =>
      rw [run_append]
      exact step_controlled induction event

/-! ## Terminal reports -/

def ClaimExecution.terminalReports (execution : ClaimExecution) : List StatusReport :=
  execution.sent.filter fun report => report.status.Terminal

theorem buildStagePlan_open (config : JobConfig) :
    ∀ stage ∈ buildStagePlan config, ¬stage.Terminal := by
  unfold buildStagePlan
  split <;> split <;> split <;> decide

theorem StageFailure.report_status (failure : StageFailure) :
    failure.report.status = .cancelled ∨ failure.report.status = .failed := by
  cases failure with
  | cancelled stage => exact .inl rfl
  | failed error => exact .inr rfl

structure ReportsFit (execution : ClaimExecution) : Prop where
  remaining : ∀ stage ∈ execution.remaining, ¬stage.Terminal
  running : execution.await.BeforeCompletion ∨ execution.await = .sealingCompleted →
    execution.terminalReports = []
  completing : execution.await = .sendingCompleted ∨ execution.await = .finished true →
    execution.terminalReports = [.plain .completed]

namespace ReportsFit

variable {execution after : ClaimExecution}

theorem handle (execution : ClaimExecution) (exception : WorkerException) :
    ReportsFit (execution.handle exception) where
  remaining := by
    intro stage member
    cases member
  running := by
    rintro (before | sealing)
    · cases before
    · cases sealing
  completing := by
    rintro (sending | finished)
    · cases sending
    · cases finished

/-- The execution is over without having completed. -/
theorem failed {execution : ClaimExecution}
    (closed : (∃ report, execution.await = .sendingFailure report) ∨
      execution.await = .finished false) : ReportsFit execution := by
  rcases execution with ⟨job, await, sent⟩
  rcases closed with ⟨report, rfl⟩ | rfl
  · constructor
    · intro stage member
      cases member
    · rintro (before | sealing)
      · cases before
      · cases sealing
    · rintro (sending | finished)
      · cases sending
      · cases finished
  · constructor
    · intro stage member
      cases member
    · rintro (before | sealing)
      · cases before
      · cases sealing
    · rintro (sending | finished)
      · cases sending
      · cases finished

theorem start (claim : JobClaim) (now : Time) : ReportsFit (.start claim now) := by
  unfold ClaimExecution.start
  split
  · exact handle _ _
  · constructor
    · exact buildStagePlan_open claim.config
    · intro _
      rfl
    · rintro (sending | finished)
      · cases sending
      · cases finished

theorem terminalReports_append (execution : ClaimExecution) (report : StatusReport) :
    (execution.sent ++ [report]).filter (fun report => report.status.Terminal) =
      execution.terminalReports ++
        (if report.status.Terminal then [report] else []) := by
  rw [List.filter_append]
  by_cases terminal : report.status.Terminal
  · have kept : [report].filter (fun report => report.status.Terminal) = [report] := by
      apply List.filter_eq_self.mpr
      intro other member
      rw [List.mem_singleton.mp member]
      exact decide_eq_true terminal
    rw [if_pos terminal, kept]
    rfl
  · have dropped : [report].filter (fun report => report.status.Terminal) = [] := by
      apply List.filter_eq_nil_iff.mpr
      intro other member isTerminal
      rw [List.mem_singleton.mp member] at isTerminal
      exact terminal (of_decide_eq_true isTerminal)
    rw [if_neg terminal, dropped]
    rfl

theorem turn (fits : ReportsFit execution) (turn : Turn execution after) : ReportsFit after := by
  cases turn with
  | handled exception => exact handle _ _
  | abandoned => exact failed (.inr rfl)
  | reports stage rest before next =>
      have stages := fits.remaining
      rw [next] at stages
      have open_ : ¬stage.Terminal := stages stage List.mem_cons_self
      constructor
      · intro other member
        exact stages other (List.mem_cons_of_mem stage member)
      · intro _
        rw [ClaimExecution.terminalReports]
        simp only
        rw [terminalReports_append, fits.running (.inl before), StatusReport.plain, if_neg open_]
        rfl
      · rintro (sending | finished)
        · cases sending
        · cases finished
  | runs stage rest before =>
      have stages := fits.remaining
      rw [ClaimExecution.remaining, before] at stages
      constructor
      · exact stages
      · intro _
        exact fits.running (.inl (by rw [before]; trivial))
      · rintro (sending | finished)
        · cases sending
        · cases finished
  | records stage rest before =>
      have stages := fits.remaining
      rw [ClaimExecution.remaining, before] at stages
      constructor
      · exact stages
      · intro _
        exact fits.running (.inl (by rw [before]; trivial))
      · rintro (sending | finished)
        · cases sending
        · cases finished
  | seals before free =>
      constructor
      · intro stage member
        cases member
      · intro _
        exact fits.running (.inl before)
      · rintro (sending | finished)
        · cases sending
        · cases finished
  | sends before =>
      constructor
      · intro stage member
        cases member
      · rintro (before | sealing)
        · cases before
        · cases sealing
      · intro _
        rw [ClaimExecution.terminalReports]
        simp only
        rw [terminalReports_append, fits.running (.inr before)]
        rfl
  | completes before =>
      constructor
      · intro stage member
        cases member
      · rintro (before | sealing)
        · cases before
        · cases sealing
      · intro _
        exact fits.completing (.inl before)

theorem closing (fits : ReportsFit execution) (closing : Closing execution after) :
    ReportsFit after := by
  cases closing with
  | sends report before => exact failed (.inl ⟨report, rfl⟩)
  | ends before => exact failed (.inr rfl)
  | rests completed before => exact fits

theorem step (fits : ReportsFit execution) (event : ExecutionEvent) :
    ReportsFit (stepExecution execution event) := by
  have cases_ := stepExecution_cases execution event
  generalize stepExecution execution event = after at cases_ ⊢
  cases cases_ with
  | called job claim stays =>
      have same : ({ execution with job := job } : ClaimExecution).remaining =
          execution.remaining := by
        unfold ClaimExecution.remaining
        simp only [claim]
      constructor
      · rw [same]
        exact fits.remaining
      · exact fits.running
      · exact fits.completing
  | turned executing turned => exact fits.turn turned
  | closed closed closing => exact fits.closing closing

end ReportsFit

theorem run_reportsFit (claim : JobClaim) (now : Time) (events : List ExecutionEvent) :
    ReportsFit (run stepExecution (.start claim now) events) :=
  run_preserves ReportsFit (fun _ event fits => fits.step event) (.start claim now) events

/-! ## After the decisive steps -/

/-- Nothing is sent after the end. -/
theorem run_finished {execution : ClaimExecution} {completed : Bool}
    (finished : execution.await = .finished completed) (events : List ExecutionEvent) :
    (run stepExecution execution events).await = .finished completed ∧
      (run stepExecution execution events).sent = execution.sent := by
  apply run_preserves (fun after : ClaimExecution =>
    after.await = .finished completed ∧ after.sent = execution.sent) _ ⟨finished, rfl⟩
  intro state event ⟨awaited, sent⟩
  have cases_ := stepExecution_cases state event
  generalize stepExecution state event = after at cases_ ⊢
  cases cases_ with
  | called job claim stays => exact ⟨awaited, sent⟩
  | turned executing turn =>
      rw [awaited] at executing
      cases executing
  | closed closed closing =>
      cases closing with
      | sends report before =>
          rw [awaited] at before
          cases before
      | ends before => exact absurd awaited (before completed)
      | rests other before => exact ⟨awaited, sent⟩

structure NeverCompletes (execution : ClaimExecution) : Prop where
  stopped : execution.job.cancellation.isSome
  await : execution.await.BeforeCompletion ∨ ¬execution.await.Executing
  remaining : ∀ stage ∈ execution.remaining, ¬stage.Terminal
  reports : ∀ report, execution.await = .sealingFailure report → report.status ≠ .completed
  sent : .completed ∉ execution.sent.map StatusReport.status

theorem NeverCompletes.closed {execution : ClaimExecution}
    (stopped : execution.job.cancellation.isSome)
    (closed : (∃ report, execution.await = .sendingFailure report) ∨
      execution.await = .finished false)
    (sent : .completed ∉ execution.sent.map StatusReport.status) : NeverCompletes execution where
  stopped := stopped
  await := by
    rcases closed with ⟨report, sending⟩ | finished
    · rw [sending]
      exact .inr id
    · rw [finished]
      exact .inr id
  remaining := (ReportsFit.failed closed).remaining
  reports := by
    intro report awaited
    rcases closed with ⟨report, sending⟩ | finished
    · rw [sending] at awaited
      cases awaited
    · rw [finished] at awaited
      cases awaited
  sent := sent

theorem NeverCompletes.handle {execution : ClaimExecution} (never : NeverCompletes execution)
    (exception : WorkerException) : NeverCompletes (execution.handle exception) where
  stopped := never.stopped
  await := .inr id
  remaining := by
    intro stage member
    cases member
  reports := by
    intro report awaited completed
    cases awaited
    rcases StageFailure.report_status _ with cancelled | failed
    · rw [cancelled] at completed
      cases completed
    · rw [failed] at completed
      cases completed
  sent := never.sent

theorem NeverCompletes.append {execution : ClaimExecution} (never : NeverCompletes execution)
    {report : StatusReport} (other : report.status ≠ .completed) :
    .completed ∉ (execution.sent ++ [report]).map StatusReport.status := by
  rw [List.map_append, List.map_singleton]
  intro member
  rcases List.mem_append.mp member with old | new
  · exact never.sent old
  · exact other (List.mem_singleton.mp new).symm

theorem NeverCompletes.step {execution : ClaimExecution} (never : NeverCompletes execution)
    (event : ExecutionEvent) : NeverCompletes (stepExecution execution event) := by
  have cases_ := stepExecution_cases execution event
  generalize stepExecution execution event = after at cases_ ⊢
  cases cases_ with
  | called job claim stays =>
      have same : ({ execution with job := job } : ClaimExecution).remaining =
          execution.remaining := by
        unfold ClaimExecution.remaining
        simp only [claim]
      constructor
      · exact stays never.stopped
      · exact never.await
      · rw [same]
        exact never.remaining
      · exact never.reports
      · exact never.sent
  | turned executing turn =>
      have before : execution.await.BeforeCompletion :=
        never.await.resolve_right fun closed => closed executing
      cases turn with
      | handled exception => exact never.handle exception
      | abandoned => exact .closed never.stopped (.inr rfl) never.sent
      | reports stage rest _ next =>
          have stages := never.remaining
          rw [next] at stages
          have open_ : stage ≠ .completed := by
            rintro rfl
            exact stages .completed List.mem_cons_self (by decide)
          constructor
          · exact never.stopped
          · exact .inl trivial
          · intro other member
            exact stages other (List.mem_cons_of_mem stage member)
          · intro report awaited
            cases awaited
          · exact never.append open_
      | runs stage rest reporting =>
          have stages := never.remaining
          rw [ClaimExecution.remaining, reporting] at stages
          constructor
          · exact never.stopped
          · exact .inl trivial
          · exact stages
          · intro report awaited
            cases awaited
          · exact never.sent
      | records stage rest running =>
          have stages := never.remaining
          rw [ClaimExecution.remaining, running] at stages
          constructor
          · exact never.stopped
          · exact .inl trivial
          · exact stages
          · intro report awaited
            cases awaited
          · exact never.sent
      | seals _ free =>
          have stopped := never.stopped
          rw [free] at stopped
          cases stopped
      | sends sealing =>
          rw [sealing] at before
          cases before
      | completes sending =>
          rw [sending] at before
          cases before
  | closed closed closing =>
      cases closing with
      | sends report sealing =>
          exact .closed never.stopped (.inl ⟨report, rfl⟩)
            (never.append (never.reports report sealing))
      | ends _ => exact .closed never.stopped (.inr rfl) never.sent
      | rests completed _ => exact never

theorem run_neverCompletes {execution : ClaimExecution} (never : NeverCompletes execution)
    (events : List ExecutionEvent) : NeverCompletes (run stepExecution execution events) :=
  run_preserves NeverCompletes (fun _ event never => never.step event) never events

/-- Before the check, nothing but open stages has been sent. -/
theorem ReportsFit.neverCompletes {execution : ClaimExecution} (fits : ReportsFit execution)
    (before : execution.await.BeforeCompletion)
    (stopped : execution.job.cancellation.isSome = true) : NeverCompletes execution where
  stopped := stopped
  await := .inl before
  remaining := fits.remaining
  reports := by
    intro report awaited
    rw [awaited] at before
    cases before
  sent := by
    intro member
    rcases List.mem_map.mp member with ⟨report, sent, status⟩
    have terminal : report ∈ execution.terminalReports := by
      apply List.mem_filter.mpr
      apply And.intro sent
      rw [status]
      decide
    rw [fits.running (.inl before)] at terminal
    cases terminal

/-- Once the handler has chosen a report, nothing else is sent. -/
def Reporting (report : StatusReport) (sent : List StatusReport) (execution : ClaimExecution) :
    Prop :=
  execution.await = .sealingFailure report ∧ execution.sent = sent ∨
    (execution.await = .sendingFailure report ∨ execution.await = .finished false) ∧
      (execution.sent = sent ∨ execution.sent = sent ++ [report])

theorem Reporting.step {report : StatusReport} {sent : List StatusReport}
    {execution : ClaimExecution} (reporting : Reporting report sent execution)
    (event : ExecutionEvent) : Reporting report sent (stepExecution execution event) := by
  have closed : ¬execution.await.Executing := by
    rcases reporting with ⟨sealing, -⟩ | ⟨sending | finished, -⟩
    · rw [sealing]
      exact id
    · rw [sending]
      exact id
    · rw [finished]
      exact id
  have cases_ := stepExecution_cases execution event
  generalize stepExecution execution event = after at cases_ ⊢
  cases cases_ with
  | called job claim stays => exact reporting
  | turned executing turn => exact absurd executing closed
  | closed _ closing =>
      cases closing with
      | sends other sealing =>
          rcases reporting with ⟨same, reports⟩ | ⟨sending | finished, -⟩
          · rw [sealing] at same
            cases same
            exact .inr ⟨.inl rfl, .inr (by rw [reports])⟩
          · rw [sealing] at sending
            cases sending
          · rw [sealing] at finished
            cases finished
      | ends before =>
          rcases reporting with ⟨-, reports⟩ | ⟨-, reports⟩
          · exact .inr ⟨.inr rfl, .inl reports⟩
          · exact .inr ⟨.inr rfl, reports⟩
      | rests completed before => exact reporting

theorem run_reporting {report : StatusReport} {sent : List StatusReport}
    {execution : ClaimExecution} (reporting : Reporting report sent execution)
    (events : List ExecutionEvent) :
    Reporting report sent (run stepExecution execution events) :=
  run_preserves (Reporting report sent) (fun _ event reporting => reporting.step event)
    reporting events

theorem Reporting.sent {report : StatusReport} {sent : List StatusReport}
    {execution : ClaimExecution} (reporting : Reporting report sent execution) :
    execution.sent = sent ∨ execution.sent = sent ++ [report] := by
  rcases reporting with ⟨-, same⟩ | ⟨-, reports⟩
  · exact .inl same
  · exact reports

/-! ## The chosen report -/

theorem handle_cancelled {execution : ClaimExecution} (exception : WorkerException)
    (stopped : execution.job.cancellation.isSome = true)
    (unfailed : execution.job.fatalError = none) :
    (execution.handle exception).await = .sealingFailure (.plain .cancelled) := by
  rw [ClaimExecution.handle]
  simp only
  rw [unfailed]
  simp only
  rw [stopped, classifyStageException_cancelled]
  rfl

theorem handle_failed {execution : ClaimExecution} (exception : WorkerException)
    {error : WorkerException} (failed : execution.job.fatalError = some error) :
    (execution.handle exception).await =
      .sealingFailure (classifyStageException execution.job.currentStage error false).report := by
  rw [ClaimExecution.handle]
  simp only
  rw [failed]

/-- An execution ends in an exception through its handler only. -/
theorem Turn.ended {execution after : ClaimExecution} (turn : Turn execution after)
    {report : StatusReport} (ended : after.await = .sealingFailure report) :
    ∃ exception, after = execution.handle exception := by
  cases turn with
  | handled exception => exact ⟨exception, rfl⟩
  | _ => cases ended

theorem step_ended {execution : ClaimExecution} {event : ExecutionEvent} {report : StatusReport}
    (executing : execution.await.Executing)
    (ended : (stepExecution execution event).await = .sealingFailure report) :
    ∃ exception, stepExecution execution event = execution.handle exception := by
  have cases_ := stepExecution_cases execution event
  generalize stepExecution execution event = after at cases_ ended ⊢
  cases cases_ with
  | called job claim stays =>
      simp only at ended
      rw [ended] at executing
      cases executing
  | turned _ turn => exact turn.ended ended
  | closed closed _ => exact absurd executing closed

/-- The task of the whole agent is cancelled where nothing turns that into a failure. -/
def ClaimExecution.Abandons (execution : ClaimExecution) (event : ExecutionEvent) : Prop :=
  execution.await = .preparing ∧
    ∃ exception, event = .raised exception ∧ exception.error.IsPlain [.cancelledError]

/-- An exception is raised by what is awaited, or by the execution itself, which then ends without
a completion. -/
def ClaimExecution.EndsInException (execution : ClaimExecution) (event : ExecutionEvent) : Prop :=
  (∃ exception, event = .raised exception) ∨
    ¬(stepExecution execution event).await.Executing ∧ execution.await ≠ .sendingCompleted

theorem raiseInStage_reports (execution : ClaimExecution) (stage : JobStatus)
    (exception : WorkerException) :
    ∃ report, (execution.raiseInStage stage exception).await = .sealingFailure report := by
  unfold ClaimExecution.raiseInStage
  split
  · exact ⟨_, rfl⟩
  · exact ⟨_, rfl⟩

/-- The two checks in front of a stage, if they end the execution, do so with a report. -/
theorem checks_report {execution next onward : ClaimExecution} {stage : JobStatus}
    {refused : Prop} [Decidable refused]
    (checked : next =
      if execution.job.cancellation.isSome then
        execution.handle (StageFailure.cancelled stage).exception
      else if refused then execution.raiseInStage stage ClaimExecution.invalidTransition
      else onward)
    (goesOn : onward.await.Executing) (ended : ¬next.await.Executing) :
    ∃ report, next.await = .sealingFailure report := by
  split at checked
  · rw [checked]
    exact ⟨_, rfl⟩
  · split at checked
    · rw [checked]
      exact raiseInStage_reports _ _ _
    · rw [checked] at ended
      exact absurd goesOn ended

theorem nextStage_reports {execution : ClaimExecution} {current : JobStatus}
    {stages : List JobStatus} (ended : ¬(execution.nextStage current stages).await.Executing) :
    ∃ report, (execution.nextStage current stages).await = .sealingFailure report := by
  cases stages with
  | nil => exact checks_report rfl trivial ended
  | cons stage rest => exact checks_report rfl trivial ended

theorem resume_reports {execution : ClaimExecution} (executing : execution.await.Executing)
    (ended : ¬execution.resume.await.Executing) (incomplete : execution.await ≠ .sendingCompleted) :
    ∃ report, execution.resume.await = .sealingFailure report := by
  unfold ClaimExecution.resume at ended ⊢
  cases awaited : execution.await with
  | preparing | recordingStage =>
      rw [awaited] at ended
      exact nextStage_reports ended
  | runningStage stage rest =>
      simp only [awaited] at ended ⊢
      split at ended
      · next stopped =>
          rw [if_pos stopped]
          exact raiseInStage_reports _ _ _
      · exact absurd trivial ended
  | reportingStage | sealingCompleted =>
      rw [awaited] at ended
      exact absurd trivial ended
  | sendingCompleted => exact absurd awaited incomplete
  | sealingFailure | sendingFailure | finished =>
      rw [awaited] at executing
      cases executing

theorem throw_reports {execution : ClaimExecution} {exception : WorkerException}
    (executing : execution.await.Executing)
    (kept : ¬execution.Abandons (.raised exception)) :
    ∃ report, (execution.throw exception).await = .sealingFailure report := by
  unfold ClaimExecution.throw
  cases awaited : execution.await with
  | preparing =>
      have other : ¬exception.error.IsPlain [.cancelledError] := fun cancelled =>
        kept ⟨awaited, exception, rfl, cancelled⟩
      exact ⟨_, by simp only [if_neg other]; rfl⟩
  | sealingFailure | sendingFailure | finished =>
      rw [awaited] at executing
      cases executing
  | _ => exact raiseInStage_reports _ _ _

/-- Whatever ends an execution without a completion chooses a report. -/
theorem step_reports {execution : ClaimExecution} {event : ExecutionEvent}
    (executing : execution.await.Executing) (kept : ¬execution.Abandons event)
    (ends : execution.EndsInException event) :
    ∃ report, (stepExecution execution event).await = .sealingFailure report := by
  cases event with
  | cancel reason | fail error reason =>
      rcases ends with ⟨exception, same⟩ | ⟨ended, -⟩
      · cases same
      · exact absurd executing ended
  | returned =>
      rcases ends with ⟨exception, same⟩ | ⟨ended, incomplete⟩
      · cases same
      · exact resume_reports executing ended incomplete
  | raised exception => exact throw_reports executing kept

/-- Nothing follows a completion that was taken; a Job that is stopped before the last check is not
completed; and an execution that ends in an exception chooses a report: a cancellation if there was
one, and otherwise the first failure. -/
theorem terminalReports_exact (claim : JobClaim) (now : Time) (front back : List ExecutionEvent) :
    let before := run stepExecution (.start claim now) front
    let after := run stepExecution (.start claim now) (front ++ back)
    (before.await = .finished true →
      before.terminalReports = [.plain .completed] ∧ after.sent = before.sent) ∧
    (before.await.BeforeCompletion → before.job.cancellation.isSome = true →
      .completed ∉ after.sent.map StatusReport.status) ∧
    (∀ event, before.await.Executing → ¬before.Abandons event → before.EndsInException event →
      ∃ report, (stepExecution before event).await = .sealingFailure report) ∧
    (∀ event rest report, back = event :: rest → before.await.Executing →
      (stepExecution before event).await = .sealingFailure report →
      (after.sent = before.sent ∨ after.sent = before.sent ++ [report]) ∧
      (rest = [.returned] → after.sent = before.sent ++ [report]) ∧
      (ExplicitlyCancelled claim now front → report = .plain .cancelled) ∧
      (¬ExplicitlyCancelled claim now front → ∀ error, firstFailure front = some error →
        ¬error.error.IsCancellation →
        ∃ failure, classifyStageException before.job.currentStage error false = .failed failure ∧
          report = ⟨.failed, some failure.errorCode, some failure.safeMessage⟩)) ∧
    (claim.leaseExpiresAt ≤ now → after.sent = [] ∨ after.sent = [.plain .cancelled]) := by
  have fits := run_reportsFit claim now front
  have controlled := run_controlled claim now front
  simp only
  refine ⟨?_, ?_, fun _ => step_reports, ?_, ?_⟩
  · intro finished
    rw [run_append]
    exact ⟨fits.completing (.inr finished), (run_finished finished back).2⟩
  · intro open_ stopped
    rw [run_append]
    exact (run_neverCompletes (fits.neverCompletes open_ stopped) back).sent
  · intro event rest report split executing ended
    rw [split, run_append, run_cons]
    generalize run stepExecution (.start claim now) front = before at *
    rcases step_ended executing ended with ⟨exception, handled⟩
    have sent : (stepExecution before event).sent = before.sent := by
      rw [handled]
      rfl
    have reporting : Reporting report before.sent (stepExecution before event) :=
      .inl ⟨ended, sent⟩
    rw [handled] at ended
    refine ⟨(run_reporting reporting rest).sent, ?_, ?_, ?_⟩
    · rintro rfl
      have resumed : (stepExecution before event).resume.sent =
          (stepExecution before event).sent ++ [report] := by
        rw [handled, ClaimExecution.resume, ended]
      rw [run_cons, run_nil, ← sent]
      exact resumed
    · intro cancelled
      rcases controlled.cancelled cancelled with ⟨stopped, unfailed⟩
      rw [handle_cancelled exception stopped unfailed] at ended
      cases ended
      rfl
    · intro notCancelled error first noCancellation
      have failed := (controlled.failed notCancelled).1.trans first
      rcases classifyStageException_failed noCancellation with ⟨failure, classified⟩
      rw [handle_failed exception failed, classified] at ended
      cases ended
      exact ⟨failure, classified, rfl⟩
  · intro expired
    have started : ClaimExecution.start claim now = ClaimExecution.handle _ _ := if_pos expired
    have reporting : Reporting (.plain .cancelled) [] (.start claim now) := by
      apply Or.inl
      constructor
      · rw [started]
        apply handle_cancelled _ _ rfl
        simp only [ActiveJob.start, if_pos expired, Option.isSome_some]
      · rw [started]
        rfl
    exact (run_reporting reporting (front ++ back)).sent

/-- A telemetry failure is reported although the stage is stopped like a cancelled one. -/
theorem terminalReports_exact_spoolFailure :
    let claim := { claimFor Manager.sampleSha256 Manager.plainConfig with leaseExpiresAt := 60 }
    (run stepExecution (.start claim 0)
      [.fail ⟨.plain .telemetrySpoolError, []⟩ "system telemetry spool failed",
        .raised ⟨.plain .processCancelled, []⟩, .returned]).sent =
      [⟨.failed, some "telemetry_persistence_failed",
        some "Worker stage assigned could not persist required telemetry."⟩] := by
  intro claim
  rcases terminalReports_exact claim 0
    [.fail ⟨.plain .telemetrySpoolError, []⟩ "system telemetry spool failed"]
    [.raised ⟨.plain .processCancelled, []⟩, .returned] with ⟨-, -, chosen, reported, -⟩
  have notCancelled : ¬ExplicitlyCancelled claim 0
      [.fail ⟨.plain .telemetrySpoolError, []⟩ "system telemetry spool failed"] := by
    simp [ExplicitlyCancelled, claim]
  rcases chosen (.raised ⟨.plain .processCancelled, []⟩) trivial
    (by rintro ⟨-, _, ⟨⟩, cancelled⟩; exact absurd cancelled (by decide)) (.inl ⟨_, rfl⟩)
    with ⟨report, sealing⟩
  rcases reported _ [.returned] report rfl trivial sealing with ⟨-, sent, -, failed⟩
  rcases failed notCancelled _ rfl (by decide) with ⟨failure, classified, rfl⟩
  cases classified
  exact sent rfl

end RvcOrchestrator.Worker

import RvcOrchestrator.Contracts.Worker
import RvcOrchestrator.Foundation.Execution
import RvcOrchestrator.Foundation.Table

/-! # The assignment protocol

What the Manager's ledger is for, with everything that does not decide who
works on what left out: which Worker holds which Job, through which attempt and
lease, and the status history that results. The Manager's requests are shown in
the following modules to take only the steps listed here.
-/

namespace RvcOrchestrator.Manager

open RvcOrchestrator.Foundation RvcOrchestrator.Contracts

/-! ## State -/

inductive EventSource where
  | manager
  | worker
deriving DecidableEq, Repr

structure JobStatusEvent where
  jobId : JobId
  attemptId : Option AttemptId
  previousStatus : Option JobStatus
  status : JobStatus
  occurredAt : Time
  source : EventSource
deriving DecidableEq, Repr

namespace Assignment

structure JobState where
  status : JobStatus
  workerId : Option WorkerId
  currentAttemptId : Option AttemptId
  attemptCount : Nat
  cancelRequestedAt : Option Time

/-- `watermarks` holds the sealed log and metric counts. -/
structure AttemptState where
  jobId : JobId
  workerId : WorkerId
  attemptNumber : Nat
  status : JobStatus
  finishedAt : Option Time
  watermarks : Option (Nat × Nat)

structure LeaseState where
  jobId : JobId
  attemptId : AttemptId
  workerId : WorkerId
  expiresAt : Time
  releasedAt : Option Time
  active : Bool

@[reducible] def LeaseState.Open (lease : LeaseState) : Prop :=
  lease.active = true ∧ lease.releasedAt = none

/-- Workers are reduced to the Job they are bound to. -/
@[ext] structure State where
  workers : Table WorkerId (Option JobId)
  jobs : Table JobId JobState
  attempts : Table AttemptId AttemptState
  leases : Table LeaseId LeaseState
  events : List JobStatusEvent

def State.empty : State where
  workers := .empty
  jobs := .empty
  attempts := .empty
  leases := .empty
  events := []

/-! ## Steps -/

/-- Who ended an attempt. The reaper acts on an expired lease, at the instant
`recoveredAt` that it read before its query. -/
inductive Closer where
  | worker
  | reaper (recoveredAt : Time)
  | administrator
deriving DecidableEq

def Closer.source : Closer → EventSource
  | .worker => .worker
  | .reaper _ | .administrator => .manager

/-- Only the administrator's revocation also marks the Job as cancel-requested. -/
def Closer.requestedAt (closer : Closer) (now : Time) (requested : Option Time) : Option Time :=
  match closer with
  | .administrator => some now
  | .worker | .reaper _ => requested

inductive Action where
  | register (worker : WorkerId)
  | create (job : JobId) (now : Time)
  | extend (lease : LeaseId) (now expiry : Time)
  | assign (worker : WorkerId) (job : JobId) (attempt : AttemptId) (lease : LeaseId)
      (now expiry : Time)
  | advance (lease : LeaseId) (target : JobStatus) (occurredAt : Time)
  | finish (lease : LeaseId) (target : JobStatus) (closer : Closer) (now occurredAt : Time)
      (watermarks : Option (Nat × Nat))
  | requeue (job : JobId) (now : Time)
  | discard (job : JobId) (target : JobStatus) (now : Time)
  | requestCancel (job : JobId) (now : Time)

/-- The three rows a lease ties together, as a status writer finds them. -/
structure Binding (state : State) (leaseId : LeaseId) (lease : LeaseState)
    (job : JobState) (attempt : AttemptState) : Prop where
  leaseFound : state.leases.find? leaseId = some lease
  leaseOpen : lease.Open
  jobFound : state.jobs.find? lease.jobId = some job
  attemptFound : state.attempts.find? lease.attemptId = some attempt
  current : job.currentAttemptId = some lease.attemptId
  leased : job.status.Leased
  unfinished : attempt.finishedAt = none

namespace State

def assign (state : State) (worker : WorkerId) (job : JobId) (attempt : AttemptId)
    (lease : LeaseId) (now expiry : Time) (number : Nat)
    (freshAttempt : state.attempts.find? attempt = none)
    (freshLease : state.leases.find? lease = none) : State where
  workers := state.workers.modify worker fun _ => some job
  jobs := state.jobs.modify job fun row => { row with
    status := .assigned
    workerId := some worker
    currentAttemptId := some attempt
    attemptCount := number }
  attempts := state.attempts.insert attempt
    ⟨job, worker, number, .assigned, none, none⟩ freshAttempt
  leases := state.leases.insert lease ⟨job, attempt, worker, expiry, none, true⟩ freshLease
  events := state.events ++ [⟨job, some attempt, some .queued, .assigned, now, .manager⟩]

def advance (state : State) (lease : LeaseState) (previous target : JobStatus)
    (occurredAt : Time) : State where
  workers := state.workers
  jobs := state.jobs.modify lease.jobId fun row => { row with status := target }
  attempts := state.attempts.modify lease.attemptId fun row => { row with status := target }
  leases := state.leases
  events := state.events ++
    [⟨lease.jobId, some lease.attemptId, some previous, target, occurredAt, .worker⟩]

def finish (state : State) (leaseId : LeaseId) (lease : LeaseState)
    (previous target : JobStatus) (closer : Closer) (now occurredAt : Time)
    (watermarks : Option (Nat × Nat)) : State where
  workers := state.workers.modify lease.workerId fun current =>
    if current = some lease.jobId then none else current
  jobs := state.jobs.modify lease.jobId fun row => { row with
    status := target
    cancelRequestedAt := closer.requestedAt now row.cancelRequestedAt }
  attempts := state.attempts.modify lease.attemptId fun row => { row with
    status := target
    finishedAt := some now
    watermarks := watermarks }
  leases := state.leases.modify leaseId fun row => { row with
    active := false
    releasedAt := some now }
  events := state.events ++
    [⟨lease.jobId, some lease.attemptId, some previous, target, occurredAt, closer.source⟩]

def requeue (state : State) (job : JobId) (attempt : AttemptId) (now : Time) : State where
  workers := state.workers
  jobs := state.jobs.modify job fun row => { row with
    status := .queued
    workerId := none
    currentAttemptId := none
    cancelRequestedAt := none }
  attempts := state.attempts
  leases := state.leases
  events := state.events ++
    [⟨job, some attempt, some .failed, .retrying, now, .manager⟩,
      ⟨job, some attempt, some .retrying, .queued, now, .manager⟩]

def discard (state : State) (job : JobId) (target : JobStatus) (now : Time) : State where
  workers := state.workers
  jobs := state.jobs.modify job fun row => { row with status := target }
  attempts := state.attempts
  leases := state.leases
  events := state.events ++ [⟨job, none, some .queued, target, now, .manager⟩]

end State

/-- One committed change. Every guard is one the Manager checks in the
transaction that makes the change. -/
inductive Step (state : State) : Action → State → Prop
  | register {worker} (fresh : state.workers.find? worker = none) :
      Step state (.register worker)
        { state with workers := state.workers.insert worker none fresh }
  | create {job now} (fresh : state.jobs.find? job = none) :
      Step state (.create job now)
        { state with
          jobs := state.jobs.insert job ⟨.queued, none, none, 0, none⟩ fresh
          events := state.events ++ [⟨job, none, none, .queued, now, .manager⟩] }
  | extend {leaseId lease now expiry}
      (found : state.leases.find? leaseId = some lease) (leaseOpen : lease.Open)
      (unexpired : now < lease.expiresAt) (later : lease.expiresAt ≤ expiry) :
      Step state (.extend leaseId now expiry)
        { state with
          leases := state.leases.modify leaseId fun row => { row with expiresAt := expiry } }
  | assign {workerId jobId attemptId leaseId now expiry job}
      (idle : state.workers.find? workerId = some none)
      (found : state.jobs.find? jobId = some job) (queued : job.status = .queued)
      (freshAttempt : state.attempts.find? attemptId = none)
      (freshLease : state.leases.find? leaseId = none) :
      Step state (.assign workerId jobId attemptId leaseId now expiry)
        (state.assign workerId jobId attemptId leaseId now expiry (job.attemptCount + 1)
          freshAttempt freshLease)
  | advance {leaseId lease job attempt target occurredAt}
      (binding : Binding state leaseId lease job attempt)
      (notRequested : job.cancelRequestedAt = none)
      (allowed : target ∈ allowedJobTransitions job.status)
      (running : ¬target.Terminal) :
      Step state (.advance leaseId target occurredAt)
        (state.advance lease job.status target occurredAt)
  | finish {leaseId lease job attempt target closer now occurredAt watermarks}
      (binding : Binding state leaseId lease job attempt)
      (cancellation : job.cancelRequestedAt ≠ none → target = .cancelled)
      (allowed : target ∈ allowedJobTransitions job.status)
      (terminal : target.Terminal)
      (revoked : closer = .administrator → target = .cancelled)
      (expired : ∀ recoveredAt, closer = .reaper recoveredAt →
        lease.expiresAt ≤ recoveredAt) :
      Step state (.finish leaseId target closer now occurredAt watermarks)
        (state.finish leaseId lease job.status target closer now occurredAt watermarks)
  | requeue {jobId job attemptId now}
      (found : state.jobs.find? jobId = some job) (failed : job.status = .failed)
      (current : job.currentAttemptId = some attemptId) :
      Step state (.requeue jobId now) (state.requeue jobId attemptId now)
  | discard {jobId job target now}
      (found : state.jobs.find? jobId = some job) (queued : job.status = .queued)
      (closing : target = .failed ∨ target = .cancelled) :
      Step state (.discard jobId target now) (state.discard jobId target now)
  | requestCancel {jobId job now}
      (found : state.jobs.find? jobId = some job) (notQueued : job.status ≠ .queued)
      (running : ¬job.status.Terminal) :
      Step state (.requestCancel jobId now)
        { state with
          jobs := state.jobs.modify jobId fun row => { row with cancelRequestedAt := some now } }

end Assignment

end RvcOrchestrator.Manager

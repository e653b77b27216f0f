import RvcOrchestrator.Contracts.Worker

/-! # The Job a Worker is executing

A Worker keeps its own copy of the lease deadline. Heartbeats and explicit
renewals run side by side, so their answers arrive late and in any order.
-/

namespace RvcOrchestrator.Worker

open RvcOrchestrator.Foundation RvcOrchestrator.Contracts

/-- `cancellation` holds the reason once the cancellation event is set. -/
structure ActiveJob where
  claim : JobClaim
  leaseExpiresAt : Time
  cancellation : Option String

namespace ActiveJob

def cancel (active : ActiveJob) (reason : String) : ActiveJob :=
  { active with cancellation := some reason }

/-- The beginning of `_execute_claim`. -/
def start (claim : JobClaim) (now : Time) : ActiveJob where
  claim := claim
  leaseExpiresAt := claim.leaseExpiresAt
  cancellation :=
    if claim.leaseExpiresAt ≤ now then some "claim lease expired before execution" else none

def acceptLeaseExpiry (active : ActiveJob) (value : Time) (source : String)
    (requestBaseline : Option Time) (now : Time) : ActiveJob × Bool :=
  let invalid := (active.cancel (source ++ " returned an invalid lease expiry"), false)
  if active.leaseExpiresAt ≤ now ∨ value ≤ now ∨
      requestBaseline.any (fun baseline => value ≤ baseline) then invalid
  -- The other path has advanced the deadline further in the meantime.
  else if requestBaseline.isSome ∧ value < active.leaseExpiresAt then (active, true)
  else if value < active.leaseExpiresAt then invalid
  else if active.leaseExpiresAt < value then ({ active with leaseExpiresAt := value }, true)
  else (active, true)

def receiveHeartbeat (active : ActiveJob) (response : WorkerHeartbeatResponse)
    (expiryBeforeRequest now : Time) : ActiveJob :=
  let current :=
    if active.claim.jobId ∈ response.cancelJobIds then active.cancel "manager cancellation"
    else active
  match response.leaseExpiresAt with
  | none => current
  | some expiry =>
      if current.cancellation.isSome then current
      else (current.acceptLeaseExpiry expiry "Manager heartbeat" (some expiryBeforeRequest) now).1

def receiveRenewal (active : ActiveJob) (response : LeaseRenewResponse)
    (expiryBeforeRequest now : Time) : ActiveJob :=
  if response.leaseId ≠ active.claim.leaseId then
    active.cancel "Manager returned a mismatched lease"
  else if response.leaseExpiresAt ≤ expiryBeforeRequest then
    active.cancel "Manager renewal did not extend the lease"
  else
    (active.acceptLeaseExpiry response.leaseExpiresAt "Manager renewal"
      (some expiryBeforeRequest) now).1

def checkDeadline (active : ActiveJob) (now : Time) : ActiveJob :=
  if active.cancellation.isNone && decide (active.leaseExpiresAt ≤ now) then
    active.cancel "lease expired"
  else active

/-! ## Where a deadline comes from -/

/-- The Job is the same, and its deadline is the old one or one of `offered`. -/
structure DeadlineFrom (offered : Option Time) (before after : ActiveJob) : Prop where
  claim : after.claim = before.claim
  deadline : after.leaseExpiresAt = before.leaseExpiresAt ∨ some after.leaseExpiresAt = offered

theorem DeadlineFrom.kept (offered : Option Time) (active : ActiveJob) :
    DeadlineFrom offered active active :=
  ⟨rfl, .inl rfl⟩

theorem DeadlineFrom.cancelled (offered : Option Time) (active : ActiveJob) (reason : String) :
    DeadlineFrom offered active (active.cancel reason) :=
  ⟨rfl, .inl rfl⟩

theorem acceptLeaseExpiry_deadline (active : ActiveJob) (value : Time) (source : String)
    (requestBaseline : Option Time) (now : Time) :
    DeadlineFrom (some value) active
      (active.acceptLeaseExpiry value source requestBaseline now).1 := by
  unfold acceptLeaseExpiry
  simp only
  split
  · exact .cancelled _ _ _
  · split
    · exact .kept _ _
    · split
      · exact .cancelled _ _ _
      · split
        · exact ⟨rfl, .inr rfl⟩
        · exact .kept _ _

theorem receiveHeartbeat_deadline (active : ActiveJob) (response : WorkerHeartbeatResponse)
    (expiryBeforeRequest now : Time) :
    DeadlineFrom response.leaseExpiresAt active
      (active.receiveHeartbeat response expiryBeforeRequest now) := by
  unfold receiveHeartbeat
  simp only
  have same : DeadlineFrom response.leaseExpiresAt active
      (if active.claim.jobId ∈ response.cancelJobIds then active.cancel "manager cancellation"
        else active) := by
    split
    · exact .cancelled _ _ _
    · exact .kept _ _
  generalize (if active.claim.jobId ∈ response.cancelJobIds then
    active.cancel "manager cancellation" else active) = current at same ⊢
  split
  · exact same
  · next expiry offered =>
      split
      · exact same
      · have accepted := acceptLeaseExpiry_deadline current expiry "Manager heartbeat"
          (some expiryBeforeRequest) now
        refine ⟨accepted.claim.trans same.claim, ?_⟩
        rcases accepted.deadline with kept | taken
        · rw [kept]
          exact same.deadline
        · exact .inr (taken.trans offered.symm)

theorem receiveRenewal_deadline (active : ActiveJob) (response : LeaseRenewResponse)
    (expiryBeforeRequest now : Time) :
    DeadlineFrom (some response.leaseExpiresAt) active
      (active.receiveRenewal response expiryBeforeRequest now) := by
  unfold receiveRenewal
  split
  · exact .cancelled _ _ _
  · split
    · exact .cancelled _ _ _
    · exact acceptLeaseExpiry_deadline ..

theorem checkDeadline_deadline (offered : Option Time) (active : ActiveJob) (now : Time) :
    DeadlineFrom offered active (active.checkDeadline now) := by
  unfold checkDeadline
  split
  · exact .cancelled _ _ _
  · exact .kept _ _

end ActiveJob

end RvcOrchestrator.Worker

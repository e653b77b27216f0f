import RvcOrchestrator.Fleet.Leases

/-! # Replies about one lease, in any order

Heartbeats and renewals are in flight together, and their replies may arrive in any order and
with any delay. A reply that another one has overtaken is harmless while its own expiry lies
ahead. One that arrives after it cancels the Job, whatever the lease was extended to meanwhile.
-/

namespace RvcOrchestrator.Fleet

open RvcOrchestrator.Foundation RvcOrchestrator.Contracts RvcOrchestrator.Manager
  RvcOrchestrator.Worker

/-! ## The exchange -/

inductive LeaseReply where
  | heartbeat (response : WorkerHeartbeatResponse)
  | renewal (response : LeaseRenewResponse)
deriving DecidableEq

def LeaseReply.expiry? : LeaseReply → Option Time
  | heartbeat response => response.leaseExpiresAt
  | renewal response => some response.leaseExpiresAt

/-- The Job, what `lease_expires_at` was when each request in flight was made, and the expiries
that `accept_lease_expiry` has confirmed. -/
structure LeaseExchange where
  active : ActiveJob
  inFlight : List Time
  accepted : List Time

namespace LeaseExchange

def start (claim : JobClaim) (now : Time) : LeaseExchange where
  active := .start claim now
  inFlight := []
  accepted := []

inductive Event where
  | send
  /-- The reply to the request at this place arrives. -/
  | arrive (place : Nat) (reply : LeaseReply) (now : Time)
deriving DecidableEq

end LeaseExchange

def receiveReply (active : ActiveJob) (reply : LeaseReply) (baseline now : Time) : ActiveJob :=
  match reply with
  | .heartbeat response => active.receiveHeartbeat response baseline now
  | .renewal response => active.receiveRenewal response baseline now

/-- The expiry for which `accept_lease_expiry` returns true. -/
def acceptedExpiry (active : ActiveJob) (reply : LeaseReply) (baseline now : Time) : Option Time :=
  match reply with
  | .heartbeat response =>
      if active.claim.jobId ∈ response.cancelJobIds ∨ active.cancellation.isSome then none
      else
        response.leaseExpiresAt.filter fun expiry =>
          (active.acceptLeaseExpiry expiry "Manager heartbeat" (some baseline) now).2
  | .renewal response =>
      if response.leaseId ≠ active.claim.leaseId ∨ response.leaseExpiresAt ≤ baseline then none
      else
        (some response.leaseExpiresAt).filter fun expiry =>
          (active.acceptLeaseExpiry expiry "Manager renewal" (some baseline) now).2

namespace LeaseExchange

def step (exchange : LeaseExchange) : Event → LeaseExchange
  | .send => { exchange with inFlight := exchange.inFlight ++ [exchange.active.leaseExpiresAt] }
  | .arrive place reply now =>
      match exchange.inFlight[place]? with
      | none => exchange
      | some baseline =>
          { active := receiveReply exchange.active reply baseline now
            inFlight := exchange.inFlight.eraseIdx place
            accepted := (acceptedExpiry exchange.active reply baseline now).toList ++
              exchange.accepted }

end LeaseExchange

/-! ## What the Manager issues -/

/-- A reply about the lease of the Worker that extends it over what the request knew, and does
not ask for a cancellation. -/
def LeaseReply.Issued (reply : LeaseReply) (active : ActiveJob) (baseline : Time) : Prop :=
  (match reply with
    | .heartbeat response => active.claim.jobId ∉ response.cancelJobIds
    | .renewal response => response.leaseId = active.claim.leaseId) ∧
  ∀ expiry ∈ reply.expiry?, baseline < expiry

instance (active : ActiveJob) (baseline : Time) :
    (reply : LeaseReply) → Decidable (reply.Issued active baseline)
  | .heartbeat _ => inferInstanceAs (Decidable (_ ∧ _))
  | .renewal _ => inferInstanceAs (Decidable (_ ∧ _))

/-- Every reply is one that the Manager has issued, and arrives while the lease runs. -/
def ArrivesInTime (exchange : LeaseExchange) : LeaseExchange.Event → Prop
  | .send => True
  | .arrive place reply now => ∃ baseline ∈ exchange.inFlight[place]?,
      reply.Issued exchange.active baseline ∧ now < exchange.active.leaseExpiresAt

/-- The expiry in the reply has not passed when the reply arrives. -/
def BringsFuture (_ : LeaseExchange) : LeaseExchange.Event → Prop
  | .send => True
  | .arrive _ reply now => ∀ expiry ∈ reply.expiry?, now < expiry

instance (exchange : LeaseExchange) :
    (event : LeaseExchange.Event) → Decidable (ArrivesInTime exchange event)
  | .send => isTrue trivial
  | .arrive place reply now =>
      inferInstanceAs (Decidable (∃ baseline ∈ exchange.inFlight[place]?,
        reply.Issued exchange.active baseline ∧ now < exchange.active.leaseExpiresAt))

instance (exchange : LeaseExchange) :
    (event : LeaseExchange.Event) → Decidable (BringsFuture exchange event)
  | .send => isTrue trivial
  | .arrive _ reply now => inferInstanceAs (Decidable (∀ expiry ∈ reply.expiry?, now < expiry))

/-! ## One reply -/

section

variable {active : ActiveJob} {reply : LeaseReply} {baseline value now : Time} {source : String}

/-- Whatever is confirmed, the deadline is the later one. -/
theorem acceptLeaseExpiry_max (active : ActiveJob) (value : Time) (source : String)
    (requestBaseline : Option Time) (now : Time) :
    (active.acceptLeaseExpiry value source requestBaseline now).1.claim = active.claim ∧
      (active.acceptLeaseExpiry value source requestBaseline now).1.leaseExpiresAt =
        if (active.acceptLeaseExpiry value source requestBaseline now).2 then
          max active.leaseExpiresAt value
        else active.leaseExpiresAt := by
  unfold ActiveJob.acceptLeaseExpiry
  simp only
  split
  · exact ⟨rfl, rfl⟩
  · split
    · next overtaken => exact ⟨rfl, (max_eq_left (le_of_lt overtaken.2)).symm⟩
    · split
      · exact ⟨rfl, rfl⟩
      · next notEarlier =>
          split
          · next later => exact ⟨rfl, (max_eq_right (le_of_lt later)).symm⟩
          · next notLater => exact ⟨rfl, (max_eq_left (not_lt.mp notLater)).symm⟩

/-- A reply that is not cancelled is confirmed exactly if its expiry lies ahead. -/
theorem acceptLeaseExpiry_confirms (running : now < active.leaseExpiresAt)
    (extending : baseline < value) :
    (active.acceptLeaseExpiry value source (some baseline) now).1.cancellation.isSome =
        (active.cancellation.isSome || decide (value ≤ now)) ∧
      (active.acceptLeaseExpiry value source (some baseline) now).2 = decide (now < value) := by
  unfold ActiveJob.acceptLeaseExpiry
  simp only
  by_cases passed : value ≤ now
  · rw [if_pos (.inr (.inl passed))]
    exact ⟨by simp [ActiveJob.cancel, passed], (decide_eq_false (not_lt.mpr passed)).symm⟩
  · have valid : ¬(active.leaseExpiresAt ≤ now ∨ value ≤ now ∨
        (some baseline).any (fun baseline => value ≤ baseline)) := by
      rw [not_or, not_or]
      exact ⟨not_le.mpr running, passed, by simpa using extending⟩
    have future : decide (now < value) = true := decide_eq_true (not_le.mp passed)
    have kept : (active.cancellation.isSome || decide (value ≤ now)) =
        active.cancellation.isSome := by
      rw [decide_eq_false passed, Bool.or_false]
    rw [if_neg valid, kept, future]
    by_cases overtaken : value < active.leaseExpiresAt
    · rw [if_pos ⟨rfl, overtaken⟩]
      exact ⟨rfl, rfl⟩
    · rw [if_neg fun both => overtaken both.2, if_neg overtaken]
      split <;> exact ⟨rfl, rfl⟩

/-- The deadline after a reply is the later one of the old deadline and what was confirmed. -/
theorem receiveReply_max (active : ActiveJob) (reply : LeaseReply) (baseline now : Time) :
    (receiveReply active reply baseline now).leaseExpiresAt =
      (acceptedExpiry active reply baseline now).toList.foldr max active.leaseExpiresAt := by
  have deadline (expiry : Time) (source : String) :
      (active.acceptLeaseExpiry expiry source (some baseline) now).1.leaseExpiresAt =
        ((some expiry).filter fun expiry =>
          (active.acceptLeaseExpiry expiry source (some baseline) now).2).toList.foldr max
            active.leaseExpiresAt := by
    rw [(acceptLeaseExpiry_max active expiry source (some baseline) now).2, Option.filter_some]
    split
    · exact max_comm ..
    · rfl
  cases reply with
  | heartbeat response =>
      simp only [receiveReply, acceptedExpiry, ActiveJob.receiveHeartbeat]
      by_cases named : active.claim.jobId ∈ response.cancelJobIds
      · rw [if_pos named, if_pos (.inl named)]
        cases response.leaseExpiresAt <;> rfl
      · rw [if_neg named]
        cases offered : response.leaseExpiresAt with
        | none =>
            by_cases cancelled : active.cancellation.isSome
            · simp only [cancelled, or_true, if_true]
              rfl
            · simp only [cancelled, named]
              rfl
        | some expiry =>
            by_cases cancelled : active.cancellation.isSome
            · simp only [cancelled, if_true, or_true]
              rfl
            · simp only [cancelled, named]
              exact deadline expiry "Manager heartbeat"
  | renewal response =>
      simp only [receiveReply, acceptedExpiry, ActiveJob.receiveRenewal]
      by_cases mismatched : response.leaseId ≠ active.claim.leaseId
      · rw [if_pos mismatched, if_pos (.inl mismatched)]
        rfl
      · by_cases unextended : response.leaseExpiresAt ≤ baseline
        · rw [if_neg mismatched, if_pos unextended, if_pos (.inr unextended)]
          rfl
        · rw [if_neg mismatched, if_neg unextended,
            if_neg (not_or.mpr ⟨mismatched, unextended⟩)]
          exact deadline response.leaseExpiresAt "Manager renewal"

/-- A reply that the Manager has issued cancels a running Job exactly if its expiry has passed. -/
theorem receiveReply_cancels (issued : reply.Issued active baseline)
    (running : now < active.leaseExpiresAt) :
    (receiveReply active reply baseline now).cancellation = none ↔
      active.cancellation = none ∧ ∀ expiry ∈ reply.expiry?, now < expiry := by
  have decides (expiry : Time) (source : String) (extending : baseline < expiry) :
      (active.acceptLeaseExpiry expiry source (some baseline) now).1.cancellation = none ↔
        active.cancellation = none ∧ now < expiry := by
    rw [← Option.not_isSome_iff_eq_none, ← Option.not_isSome_iff_eq_none,
      (acceptLeaseExpiry_confirms running extending).1, Bool.or_eq_true, not_or, decide_eq_true_eq,
      not_le]
  cases reply with
  | heartbeat response =>
      simp only [receiveReply, ActiveJob.receiveHeartbeat, if_neg issued.1]
      cases offered : response.leaseExpiresAt with
      | none => simp [LeaseReply.expiry?, offered]
      | some expiry =>
          have extending := issued.2 expiry (Option.mem_def.mpr offered)
          simp only [LeaseReply.expiry?, offered, Option.mem_def, Option.some.injEq, forall_eq']
          by_cases cancelled : active.cancellation.isSome
          · rw [if_pos cancelled]
            have notNone : active.cancellation ≠ none := Option.isSome_iff_ne_none.mp cancelled
            exact ⟨fun none => absurd none notNone, fun both => absurd both.1 notNone⟩
          · rw [if_neg cancelled]
            exact decides expiry "Manager heartbeat" extending
  | renewal response =>
      have extending : baseline < response.leaseExpiresAt := issued.2 _ rfl
      have matched : ¬response.leaseId ≠ active.claim.leaseId := not_not.mpr issued.1
      simp only [receiveReply, ActiveJob.receiveRenewal]
      rw [if_neg matched, if_neg (not_le.mpr extending)]
      simp only [LeaseReply.expiry?, Option.mem_def, Option.some.injEq, forall_eq']
      exact decides response.leaseExpiresAt "Manager renewal" extending

end

/-! ## Runs -/

namespace LeaseExchange

/-- The deadline is the latest of the claim's own and those confirmed. -/
def KeepsLatest (claim : JobClaim) (exchange : LeaseExchange) : Prop :=
  exchange.active.leaseExpiresAt = exchange.accepted.foldr max claim.leaseExpiresAt

theorem step_latest {claim : JobClaim} {exchange : LeaseExchange}
    (latest : exchange.KeepsLatest claim) (event : Event) :
    (exchange.step event).KeepsLatest claim := by
  cases event with
  | send => exact latest
  | arrive place reply now =>
      simp only [step]
      split
      · exact latest
      · next baseline _ =>
          unfold KeepsLatest
          rw [receiveReply_max, List.foldr_append, ← latest]

theorem step_grows (exchange : LeaseExchange) (event : Event) :
    exchange.active.leaseExpiresAt ≤ (exchange.step event).active.leaseExpiresAt := by
  cases event with
  | send => exact le_refl _
  | arrive place reply now =>
      simp only [step]
      split
      · exact le_refl _
      · next baseline _ =>
          rw [receiveReply_max]
          cases acceptedExpiry exchange.active reply baseline now with
          | none => exact le_refl _
          | some expiry => exact le_max_right expiry _

theorem run_grows (exchange : LeaseExchange) (events : List Event) :
    exchange.active.leaseExpiresAt ≤
      (run LeaseExchange.step exchange events).active.leaseExpiresAt := by
  induction events generalizing exchange with
  | nil => exact le_refl _
  | cons event events induction => exact (step_grows exchange event).trans (induction _)

theorem step_uncancelled {exchange : LeaseExchange} {event : Event}
    (inTime : ArrivesInTime exchange event) :
    (exchange.step event).active.cancellation = none ↔
      exchange.active.cancellation = none ∧ BringsFuture exchange event := by
  cases event with
  | send => exact (and_iff_left trivial).symm
  | arrive place reply now =>
      rcases inTime with ⟨baseline, found, issued, running⟩
      simp only [step, Option.mem_def.mp found]
      exact receiveReply_cancels issued running

end LeaseExchange

/-- In every state of the run the Job is not cancelled, its deadline is the latest of the
claim's and of those confirmed, and no later state has an earlier one. -/
def RepliesHarmless (claim : JobClaim) (now : Time) (events : List LeaseExchange.Event) : Prop :=
  ∀ front back, events = front ++ back →
    (run LeaseExchange.step (LeaseExchange.start claim now) front).active.cancellation = none ∧
      (run LeaseExchange.step (LeaseExchange.start claim now) front).KeepsLatest claim ∧
      (run LeaseExchange.step (LeaseExchange.start claim now) front).active.leaseExpiresAt ≤
        (run LeaseExchange.step (LeaseExchange.start claim now) events).active.leaseExpiresAt

theorem uncancelled_iff {exchange : LeaseExchange} (events : List LeaseExchange.Event)
    (inTime : Along LeaseExchange.step ArrivesInTime exchange events) :
    (∀ front back, events = front ++ back →
        (run LeaseExchange.step exchange front).active.cancellation = none) ↔
      exchange.active.cancellation = none ∧
        Along LeaseExchange.step BringsFuture exchange events := by
  induction events generalizing exchange with
  | nil =>
      constructor
      · exact fun always => ⟨always [] [] rfl, trivial⟩
      · rintro ⟨alive, -⟩ front back split
        rw [(List.append_eq_nil_iff.mp split.symm).1]
        exact alive
  | cons event events induction =>
      constructor
      · intro always
        have now := always [] (event :: events) rfl
        have later := (induction inTime.2).mp fun front back split =>
          always (event :: front) back (congrArg (event :: ·) split)
        exact ⟨now, ((LeaseExchange.step_uncancelled inTime.1).mp later.1).2, later.2⟩
      · rintro ⟨alive, future, futures⟩ front back split
        cases front with
        | nil => exact alive
        | cons first front =>
            rcases List.cons.inj split with ⟨rfl, rest⟩
            exact (induction inTime.2).mpr
              ⟨(LeaseExchange.step_uncancelled inTime.1).mpr ⟨alive, future⟩, futures⟩
              front back rest

/-- Replies that the Manager has issued, and that arrive while the lease runs, do no harm exactly
if none arrives after its own expiry. -/
theorem replies_harmless_iff {claim : JobClaim} {now : Time} (alive : now < claim.leaseExpiresAt)
    {events : List LeaseExchange.Event}
    (inTime : Along LeaseExchange.step ArrivesInTime (LeaseExchange.start claim now) events) :
    RepliesHarmless claim now events ↔
      Along LeaseExchange.step BringsFuture (LeaseExchange.start claim now) events := by
  have started : (LeaseExchange.start claim now).active.cancellation = none :=
    if_neg (not_le.mpr alive)
  have whole := uncancelled_iff events inTime
  rw [and_iff_right started] at whole
  rw [← whole]
  constructor
  · exact fun harmless front back split => (harmless front back split).1
  · intro uncancelled front back split
    refine ⟨uncancelled front back split, ?_, ?_⟩
    · have latest : (LeaseExchange.start claim now).KeepsLatest claim := rfl
      exact run_preserves (LeaseExchange.KeepsLatest claim)
        (fun _ event latest => LeaseExchange.step_latest latest event) latest front
    · rw [split, run_append]
      exact LeaseExchange.run_grows _ back

/-! ## A reply that arrives too late -/

namespace LeaseSample

def claim : JobClaim := { firstClaim with leaseExpiresAt := seconds 60 }

def renewal (expiry : Nat) : LeaseReply := .renewal ⟨claim.leaseId, seconds expiry⟩

/-- A heartbeat is sent, two renewals extend the lease, and the reply to the heartbeat arrives
when the lease runs for another forty seconds. -/
def lateHeartbeat (arrival : Nat) : List LeaseExchange.Event :=
  [.send, .send, .arrive 1 (renewal 90) (seconds 30), .send,
    .arrive 1 (renewal 140) (seconds 80),
    .arrive 0 (.heartbeat ⟨0, some (seconds 62), []⟩) (seconds arrival)]

theorem lateHeartbeat_cancels : ¬RepliesHarmless claim 0 (lateHeartbeat 100) := by
  intro harmless
  have uncancelled := (harmless (lateHeartbeat 100) [] (List.append_nil _).symm).1
  revert uncancelled
  decide +kernel

theorem lateHeartbeat_harmless : RepliesHarmless claim 0 (lateHeartbeat 61) :=
  (replies_harmless_iff (by decide) (by decide +kernel)).mpr (by decide +kernel)

end LeaseSample

end RvcOrchestrator.Fleet

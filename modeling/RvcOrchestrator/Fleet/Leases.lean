import RvcOrchestrator.Manager.Answers
import RvcOrchestrator.Worker.ActiveJob

/-! # The Manager and its Workers

One Manager, any number of Workers, and a network between them that delays,
reorders, duplicates and loses what it carries. Requests reach the Manager at
any time and in any form, so they are simply its operations. An answer stays in
flight once it is given, and is delivered at any later time, any number of times
or never. All clocks agree, but a request commits after it has read the clock.
-/

namespace RvcOrchestrator.Fleet

open RvcOrchestrator.Foundation RvcOrchestrator.Contracts RvcOrchestrator.Manager
open RvcOrchestrator.Worker
open Assignment (Action Sound Growth Accounted EndedByWorker)

/-! ## The system -/

inductive Answer where
  | claimed (workerId : WorkerId) (claim : JobClaim)
  | heartbeat (workerId : WorkerId) (leaseId : LeaseId) (response : WorkerHeartbeatResponse)
  | renewed (workerId : WorkerId) (leaseId : LeaseId) (response : LeaseRenewResponse)

structure State where
  clock : Time
  ledger : Ledger
  inFlight : List Answer
  active : WorkerId → Option ActiveJob

def State.initial (clock : Time) : State where
  clock := clock
  ledger := .empty
  inFlight := []
  active _ := none

inductive Event where
  | tick (elapsed : Nat)
  | operate (operation : Operation)
  /-- The answer at this place of `inFlight` arrives, at a request that was sent
  when the deadline stood at `expiryBeforeRequest`. -/
  | deliver (place : Nat) (expiryBeforeRequest : Time)
  | checkDeadline (workerId : WorkerId)
  | cancel (workerId : WorkerId) (reason : String)
  /-- The Job is over for its Worker, or the Worker's process has ended. -/
  | finish (workerId : WorkerId)

section

variable (platform : Platform) (settings : Settings)

def answers (ledger : Ledger) : Operation → List Answer
  | .claim recovery request =>
      match claimJob platform settings (recover platform settings ledger recovery) request with
      | .ok (some claim, _) => [.claimed request.workerId claim]
      | _ => []
  | .heartbeat recovery workerId payload now =>
      match payload.current, Manager.heartbeat platform settings
        (recover platform settings ledger recovery) workerId payload now with
      | some (_, leaseId), .ok (response, _) => [.heartbeat workerId leaseId response]
      | _, _ => []
  | .renewLease workerId jobId leaseId checkedAt now =>
      match Manager.renewLease platform settings ledger workerId jobId leaseId checkedAt now with
      | .ok (response, _) => [.renewed workerId leaseId response]
      | .error _ => []
  | _ => []

/-- The runs considered: clocks agree, and nobody is revoked by force. -/
def Admissible (clock : Time) (operation : Operation) : Prop :=
  operation.forcesRevocation = false ∧ ∀ reading ∈ operation.readings, reading ≤ clock

instance (clock : Time) (operation : Operation) : Decidable (Admissible clock operation) :=
  inferInstanceAs (Decidable (_ ∧ _))

def State.setActive (state : State) (workerId : WorkerId) (job : Option ActiveJob) : State :=
  { state with active := Function.update state.active workerId job }

/-- The Worker applies `change` to the Job it executes under the lease. -/
def State.updateActive (state : State) (workerId : WorkerId) (concerns : ActiveJob → Bool)
    (change : ActiveJob → ActiveJob) : State :=
  match state.active workerId with
  | some active =>
      if concerns active then state.setActive workerId (some (change active)) else state
  | none => state

def State.deliver (state : State) (expiryBeforeRequest : Time) : Answer → State
  | .claimed workerId claim =>
      match state.active workerId with
      | none => state.setActive workerId (some (.start claim state.clock))
      | some _ => state
  | .heartbeat workerId leaseId response =>
      state.updateActive workerId (fun active => active.claim.leaseId = leaseId)
        fun active => active.receiveHeartbeat response expiryBeforeRequest state.clock
  | .renewed workerId leaseId response =>
      state.updateActive workerId (fun active => active.claim.leaseId = leaseId)
        fun active => active.receiveRenewal response expiryBeforeRequest state.clock

def step (state : State) : Event → State
  | .tick elapsed => { state with clock := state.clock + elapsed }
  | .operate operation =>
      if Admissible state.clock operation then
        { state with
          ledger := perform platform settings state.ledger operation
          inFlight := state.inFlight ++ answers platform settings state.ledger operation }
      else state
  | .deliver place expiryBeforeRequest =>
      match state.inFlight[place]? with
      | some answer => state.deliver expiryBeforeRequest answer
      | none => state
  | .checkDeadline workerId =>
      state.updateActive workerId (fun _ => true) fun active => active.checkDeadline state.clock
  | .cancel workerId reason =>
      state.updateActive workerId (fun _ => true) fun active => active.cancel reason
  | .finish workerId => state.setActive workerId none

end

/-! ## The invariant -/

def Answer.Backed (ledger : Ledger) : Answer → Prop
  | .claimed workerId claim => Backs ledger workerId claim claim.leaseExpiresAt
  | .heartbeat _ leaseId response =>
      ∀ expiry, response.leaseExpiresAt = some expiry → LeaseUntil ledger leaseId expiry
  | .renewed _ leaseId response => LeaseUntil ledger leaseId response.leaseExpiresAt

structure Tracked (state : State) : Prop where
  sound : Sound state.ledger.view
  accounted : Accounted state.clock state.ledger.view
  inFlight : ∀ answer ∈ state.inFlight, answer.Backed state.ledger
  active : ∀ workerId active, state.active workerId = some active →
    Backs state.ledger workerId active.claim active.leaseExpiresAt

theorem Tracked.initial (clock : Time) : Tracked (.initial clock) where
  sound := Sound.empty
  accounted := by
    intro leaseId lease found
    cases found
  inFlight := by simp [State.initial]
  active := by simp [State.initial]

section

variable {readings : List Time} {before after : Ledger}

theorem backs_growth (growth : Growth readings before.view after.view) {workerId : WorkerId}
    {claim : JobClaim} {expiry : Time} (backs : Backs before workerId claim expiry) :
    Backs after workerId claim expiry := by
  rcases backs with ⟨lease, found, job, attempt, worker, until_⟩
  rcases growth _ _ (leaseView found) with
    ⟨later, laterFound, sameJob, sameAttempt, sameWorker, forward, -⟩
  rcases find?_map_eq_some laterFound with ⟨row, rowFound, rfl⟩
  exact ⟨row, rowFound, sameJob.trans job, sameAttempt.trans attempt, sameWorker.trans worker,
    until_.trans forward⟩

theorem leaseUntil_growth (growth : Growth readings before.view after.view) {leaseId : LeaseId}
    {expiry : Time} (lasts : LeaseUntil before leaseId expiry) :
    LeaseUntil after leaseId expiry := by
  rcases lasts with ⟨lease, found, until_⟩
  rcases growth _ _ (leaseView found) with ⟨later, laterFound, -, -, -, forward, -⟩
  rcases find?_map_eq_some laterFound with ⟨row, rowFound, rfl⟩
  exact ⟨row, rowFound, until_.trans forward⟩

theorem Answer.backed_growth (growth : Growth readings before.view after.view) {answer : Answer}
    (backed : answer.Backed before) : answer.Backed after := by
  cases answer with
  | claimed workerId claim => exact backs_growth growth backed
  | heartbeat workerId leaseId response =>
      intro expiry offered
      exact leaseUntil_growth growth (backed expiry offered)
  | renewed workerId leaseId response => exact leaseUntil_growth growth backed

end

section

variable {platform : Platform} {settings : Settings} {state : State}

theorem growth_perform {ledger : Ledger} {operation : Operation} (sound : Sound ledger.view)
    (unforced : operation.forcesRevocation = false) :
    Growth operation.readings ledger.view (perform platform settings ledger operation).view := by
  rcases perform_timely platform settings operation unforced sound with
    ⟨actions, timely, steps⟩
  exact Assignment.Steps.growth steps timely

theorem answers_backed {ledger : Ledger} {operation : Operation} {answer : Answer}
    (given : answer ∈ answers platform settings ledger operation) :
    answer.Backed (perform platform settings ledger operation) := by
  cases operation with
  | claim recovery request =>
      simp only [answers] at given
      split at given
      · next claim next claimed =>
          rw [List.mem_singleton] at given
          subst given
          rw [perform, Operation.start, Operation.commit, claimed]
          exact backs_of_claimJob claimed
      · cases given
  | heartbeat recovery workerId payload now =>
      simp only [answers] at given
      split at given
      · next leaseId response next named answered =>
          rw [List.mem_singleton] at given
          subst given
          rw [perform, Operation.start, Operation.commit, answered]
          intro expiry offered
          exact leaseUntil_of_heartbeat named offered answered
      · cases given
  | renewLease workerId jobId leaseId checkedAt now =>
      simp only [answers] at given
      split at given
      · next response next answered =>
          rw [List.mem_singleton] at given
          subst given
          have changed : perform platform settings ledger
              (.renewLease workerId jobId leaseId checkedAt now) = next :=
            congrArg (committed ledger) answered
          rw [changed]
          exact leaseUntil_of_renewLease answered
      · cases given
  | _ => cases given

/-- A Worker changes nothing but its own Job, whose deadline stays backed. -/
theorem Tracked.setActive (tracked : Tracked state) (workerId : WorkerId)
    (job : Option ActiveJob)
    (backs : ∀ active ∈ job, Backs state.ledger workerId active.claim active.leaseExpiresAt) :
    Tracked (state.setActive workerId job) where
  sound := tracked.sound
  accounted := tracked.accounted
  inFlight := tracked.inFlight
  active := by
    intro other active found
    by_cases equal : other = workerId
    · subst equal
      simp only [State.setActive, Function.update_self] at found
      exact backs active found
    · simp only [State.setActive, Function.update_of_ne equal] at found
      exact tracked.active other active found

theorem Tracked.updateActive (tracked : Tracked state) (workerId : WorkerId)
    (concerns : ActiveJob → Bool) (change : ActiveJob → ActiveJob)
    (backs : ∀ active, state.active workerId = some active → concerns active = true →
      Backs state.ledger workerId (change active).claim (change active).leaseExpiresAt) :
    Tracked (state.updateActive workerId concerns change) := by
  unfold State.updateActive
  split
  · next active found =>
      split
      · next concerned =>
          refine tracked.setActive workerId _ ?_
          intro changed member
          rw [Option.mem_some_iff] at member
          exact member ▸ backs active found concerned
      · exact tracked
  · exact tracked

/-- A deadline that is the old one or a backed one is backed. -/
theorem backs_of_deadline {workerId : WorkerId} {active changed : ActiveJob}
    {offered : Option Time} (from_ : ActiveJob.DeadlineFrom offered active changed)
    (backs : Backs state.ledger workerId active.claim active.leaseExpiresAt)
    (offer : ∀ expiry, offered = some expiry →
      LeaseUntil state.ledger active.claim.leaseId expiry) :
    Backs state.ledger workerId changed.claim changed.leaseExpiresAt := by
  rw [from_.claim]
  rcases backs with ⟨lease, found, job, attempt, worker, lasts⟩
  refine ⟨lease, found, job, attempt, worker, ?_⟩
  rcases from_.deadline with kept | taken
  · rw [kept]
    exact lasts
  · rcases offer _ taken.symm with ⟨row, rowFound, rowLasts⟩
    rw [found] at rowFound
    injection rowFound with same
    exact same ▸ rowLasts

theorem Tracked.deliver (tracked : Tracked state) (expiryBeforeRequest : Time) {answer : Answer}
    (backed : answer.Backed state.ledger) :
    Tracked (state.deliver expiryBeforeRequest answer) := by
  cases answer with
  | claimed workerId claim =>
      simp only [State.deliver]
      split
      · refine tracked.setActive workerId _ ?_
        intro started member
        rw [Option.mem_some_iff] at member
        exact member ▸ backed
      · exact tracked
  | heartbeat workerId leaseId response =>
      refine tracked.updateActive workerId _ _ ?_
      intro active found concerned
      rw [decide_eq_true_eq] at concerned
      exact backs_of_deadline (active.receiveHeartbeat_deadline ..)
        (tracked.active workerId active found) fun expiry offered =>
          concerned ▸ backed expiry offered
  | renewed workerId leaseId response =>
      refine tracked.updateActive workerId _ _ ?_
      intro active found concerned
      rw [decide_eq_true_eq] at concerned
      refine backs_of_deadline (active.receiveRenewal_deadline ..)
        (tracked.active workerId active found) ?_
      rintro expiry ⟨⟩
      exact concerned ▸ backed

theorem Tracked.next (tracked : Tracked state) (event : Event) :
    Tracked (step platform settings state event) := by
  cases event with
  | tick elapsed =>
      exact ⟨tracked.sound, tracked.accounted.later (Int.le_add_of_nonneg_right (by simp)),
        tracked.inFlight, tracked.active⟩
  | operate operation =>
      simp only [Fleet.step]
      split
      · next admissible =>
          have growth : Growth operation.readings state.ledger.view
              (perform platform settings state.ledger operation).view :=
            growth_perform tracked.sound admissible.1
          rcases perform_timely platform settings operation admissible.1 tracked.sound with
            ⟨actions, timely, steps⟩
          constructor
          case sound => exact tracked.sound.steps steps
          case accounted => exact tracked.accounted.steps admissible.2 steps timely
          case inFlight =>
            intro answer member
            rcases List.mem_append.mp member with earlier | given
            · exact Answer.backed_growth growth (tracked.inFlight answer earlier)
            · exact answers_backed given
          case active =>
            intro workerId active found
            exact backs_growth growth (tracked.active workerId active found)
      · exact tracked
  | deliver place expiryBeforeRequest =>
      simp only [Fleet.step]
      split
      · next answer found =>
          exact tracked.deliver expiryBeforeRequest
            (tracked.inFlight answer (List.mem_of_getElem? found))
      · exact tracked
  | checkDeadline workerId =>
      refine tracked.updateActive workerId _ _ ?_
      intro active found _
      exact backs_of_deadline (active.checkDeadline_deadline none state.clock)
        (tracked.active workerId active found) (by simp)
  | cancel workerId reason =>
      refine tracked.updateActive workerId _ _ ?_
      intro active found _
      exact tracked.active workerId active found
  | finish workerId => exact tracked.setActive workerId none (by simp)

end

/-! ## Exclusion -/

/-- The Worker executes a Job under a lease that it takes to be running. -/
def State.Holds (state : State) (workerId : WorkerId) (active : ActiveJob) : Prop :=
  state.active workerId = some active ∧ state.clock < active.leaseExpiresAt

section

variable (platform : Platform) (settings : Settings) (state : State)

structure LeaseExclusion : Prop where
  /-- A Worker's deadline is never beyond the Manager's. -/
  bounded : ∀ {workerId active}, state.active workerId = some active →
    ∃ lease, state.ledger.leases.find? active.claim.leaseId = some lease ∧
      lease.workerId = workerId ∧ lease.jobId = active.claim.jobId ∧
      active.leaseExpiresAt ≤ lease.expiresAt
  /-- The Manager's expiry never decreases, and is extended only by a request that
  has read the clock before it. -/
  forward : ∀ (event : Event) {leaseId lease}, state.ledger.leases.find? leaseId = some lease →
    ∃ later, (step platform settings state event).ledger.leases.find? leaseId = some later ∧
      lease.expiresAt ≤ later.expiresAt ∧
      (lease.expiresAt < later.expiresAt → ∃ operation, event = .operate operation ∧
        ∃ now ∈ operation.readings, now < lease.expiresAt)
  /-- An attempt that its Worker has not ended itself is closed only after the
  Worker's own deadline. -/
  closed : ∀ (event : Event) {leaseId lease later},
    state.ledger.leases.find? leaseId = some lease →
    lease.active = true → lease.releasedAt = none →
    (step platform settings state event).ledger.leases.find? leaseId = some later →
    ¬(later.active = true ∧ later.releasedAt = none) →
    EndedByWorker (step platform settings state event).ledger.events lease.attemptId ∨
      ∀ {workerId active}, state.active workerId = some active →
        active.claim.leaseId = leaseId → active.leaseExpiresAt ≤ state.clock
  /-- So is a Job handed on. -/
  handedOn : ∀ {recovery request claim}, Admissible state.clock (.claim recovery request) →
    .claimed request.workerId claim ∈
      answers platform settings state.ledger (.claim recovery request) →
    ∀ {workerId active}, state.active workerId = some active →
      active.claim.jobId = claim.jobId →
      EndedByWorker (step platform settings state
          (.operate (.claim recovery request))).ledger.events active.claim.attemptId ∨
        active.leaseExpiresAt ≤ state.clock
  /-- Of two Workers that hold one Job, one has reported its end. -/
  exclusive : ∀ {left right leftActive rightActive}, state.Holds left leftActive →
    state.Holds right rightActive → leftActive.claim.jobId = rightActive.claim.jobId →
    left = right ∨ EndedByWorker state.ledger.events leftActive.claim.attemptId ∨
      EndedByWorker state.ledger.events rightActive.claim.attemptId

end

section

variable {platform : Platform} {settings : Settings} {state : State}

/-- A closed lease is either ended by its Worker or past the Worker's deadline. -/
theorem ended_or_expired {ledger : Ledger} {clock : Time} (accounted : Accounted clock ledger.view)
    {workerId : WorkerId} {active : ActiveJob}
    (backs : Backs ledger workerId active.claim active.leaseExpiresAt)
    (closed : ∀ {lease}, ledger.leases.find? active.claim.leaseId = some lease →
      ¬(Ledger.leaseState lease).Open) :
    EndedByWorker ledger.events active.claim.attemptId ∨ active.leaseExpiresAt ≤ clock := by
  rcases backs with ⟨lease, found, -, ofAttempt, -, lasts⟩
  rcases accounted _ _ (leaseView found) (closed found) with ended | expired
  · rw [← ofAttempt]
    exact .inl ended
  · exact .inr (lasts.trans expired)

/-- Two Workers hold two leases, of which the Job's row knows at most one. -/
theorem Tracked.exclusive (tracked : Tracked state) {left right : WorkerId}
    {leftActive rightActive : ActiveJob} (leftHolds : state.Holds left leftActive)
    (rightHolds : state.Holds right rightActive)
    (sameJob : leftActive.claim.jobId = rightActive.claim.jobId) :
    left = right ∨ EndedByWorker state.ledger.events leftActive.claim.attemptId ∨
      EndedByWorker state.ledger.events rightActive.claim.attemptId := by
  have leftBacks := tracked.active left leftActive leftHolds.1
  have rightBacks := tracked.active right rightActive rightHolds.1
  rcases leftBacks with ⟨leftLease, leftFound, leftJob, leftAttempt, leftWorker, leftLasts⟩
  rcases rightBacks with ⟨rightLease, rightFound, rightJob, rightAttempt, rightWorker, rightLasts⟩
  by_cases leftOpen : (Ledger.leaseState leftLease).Open
  · by_cases rightOpen : (Ledger.leaseState rightLease).Open
    · have same := tracked.sound.open_lease_unique (leaseView leftFound) leftOpen
        (leaseView rightFound) rightOpen (leftJob.trans (sameJob.trans rightJob.symm))
      rw [same, rightFound] at leftFound
      injection leftFound with equal
      rw [← leftWorker, ← equal, rightWorker]
      exact .inl rfl
    · rcases tracked.accounted _ _ (leaseView rightFound) rightOpen with ended | expired
      · rw [← rightAttempt]
        exact .inr (.inr ended)
      · exact absurd (rightLasts.trans expired) (not_le.mpr rightHolds.2)
  · rcases tracked.accounted _ _ (leaseView leftFound) leftOpen with ended | expired
    · rw [← leftAttempt]
      exact .inr (.inl ended)
    · exact absurd (leftLasts.trans expired) (not_le.mpr leftHolds.2)

/-- Only the Manager's operations touch its ledger. -/
theorem step_ledger (event : Event) :
    (step platform settings state event).ledger = state.ledger ∨
      ∃ operation, event = .operate operation ∧ Admissible state.clock operation ∧
        (step platform settings state event).ledger =
          perform platform settings state.ledger operation := by
  have updated : ∀ workerId concerns change,
      (state.updateActive workerId concerns change).ledger = state.ledger := by
    intro workerId concerns change
    unfold State.updateActive
    split
    · split <;> rfl
    · rfl
  cases event with
  | tick elapsed => exact .inl rfl
  | operate operation =>
      by_cases admissible : Admissible state.clock operation
      · exact .inr ⟨operation, rfl, admissible, by rw [step, if_pos admissible]⟩
      · exact .inl (by rw [step, if_neg admissible])
  | deliver place expiryBeforeRequest =>
      refine .inl ?_
      simp only [step]
      split
      · next answer _ =>
          cases answer with
          | claimed workerId claim =>
              simp only [State.deliver]
              split <;> rfl
          | heartbeat => exact updated _ _ _
          | renewed => exact updated _ _ _
      · rfl
  | checkDeadline workerId => exact .inl (updated _ _ _)
  | cancel workerId reason => exact .inl (updated _ _ _)
  | finish workerId => exact .inl rfl

theorem Tracked.forward (tracked : Tracked state) (event : Event) {leaseId : LeaseId}
    {lease : LeaseRow} (found : state.ledger.leases.find? leaseId = some lease) :
    ∃ later, (step platform settings state event).ledger.leases.find? leaseId = some later ∧
      lease.expiresAt ≤ later.expiresAt ∧
      (lease.expiresAt < later.expiresAt → ∃ operation, event = .operate operation ∧
        ∃ now ∈ operation.readings, now < lease.expiresAt) := by
  rcases step_ledger event with same | ⟨operation, rfl, admissible, changed⟩
  · rw [same]
    exact ⟨lease, found, le_rfl, fun less => absurd less (lt_irrefl _)⟩
  · rw [changed]
    rcases growth_perform tracked.sound admissible.1 _ _ (leaseView found) with
      ⟨state, stateFound, -, -, -, advanced, reading⟩
    rcases find?_map_eq_some stateFound with ⟨later, laterFound, rfl⟩
    exact ⟨later, laterFound, advanced, fun moved => ⟨operation, rfl, reading moved⟩⟩

theorem Tracked.closed (tracked : Tracked state) (event : Event) {leaseId : LeaseId}
    {lease later : LeaseRow} (found : state.ledger.leases.find? leaseId = some lease)
    (leaseOpen : (Ledger.leaseState lease).Open)
    (laterFound : (step platform settings state event).ledger.leases.find? leaseId = some later)
    (laterClosed : ¬(Ledger.leaseState later).Open) :
    EndedByWorker (step platform settings state event).ledger.events lease.attemptId ∨
      ∀ {workerId active}, state.active workerId = some active →
        active.claim.leaseId = leaseId → active.leaseExpiresAt ≤ state.clock := by
  rcases step_ledger event with same | ⟨operation, rfl, admissible, changed⟩
  · rw [same, found] at laterFound
    injection laterFound with equal
    exact absurd (equal ▸ leaseOpen) laterClosed
  · rcases perform_timely platform settings operation admissible.1 tracked.sound with
      ⟨actions, timely, steps⟩
    have accounted := tracked.accounted.steps admissible.2 steps timely
    have growth := Assignment.Steps.growth steps timely
    rw [changed] at laterFound ⊢
    rcases growth _ _ (leaseView found) with ⟨_, grown, -, sameAttempt, -⟩
    rw [leaseView laterFound] at grown
    injection grown with grown
    subst grown
    rcases accounted _ _ (leaseView laterFound) laterClosed with ended | expired
    · exact .inl ((show later.attemptId = lease.attemptId from sameAttempt) ▸ ended)
    · refine .inr ?_
      intro workerId active activeFound ofLease
      rcases backs_growth growth (tracked.active workerId active activeFound) with
        ⟨row, rowFound, -, -, -, lasts⟩
      rw [ofLease, laterFound] at rowFound
      injection rowFound with equal
      subst equal
      exact lasts.trans expired

theorem Tracked.handedOn (tracked : Tracked state) {recovery : Recovery} {request : ClaimRequest}
    {claim : JobClaim} (admissible : Admissible state.clock (.claim recovery request))
    (given : .claimed request.workerId claim ∈
      answers platform settings state.ledger (.claim recovery request))
    {workerId : WorkerId} {active : ActiveJob} (activeFound : state.active workerId = some active)
    (ofJob : active.claim.jobId = claim.jobId) :
    EndedByWorker (step platform settings state
        (.operate (.claim recovery request))).ledger.events active.claim.attemptId ∨
      active.leaseExpiresAt ≤ state.clock := by
  -- The ledger in which the claim finds the Job in the queue.
  let start := recover platform settings state.ledger recovery
  have recovered : Does (Action.Timely (Operation.claim recovery request).readings)
      state.ledger.view start.view :=
    recover_timely recovery List.mem_cons_self tracked.sound
  have sound : Sound start.view := recovered.sound tracked.sound
  rcases recovered with ⟨actions, timely, steps⟩
  have accounted := tracked.accounted.steps admissible.2 steps timely
  have backs := backs_growth (Assignment.Steps.growth steps timely)
    (tracked.active workerId active activeFound)
  simp only [answers] at given
  split at given
  case h_2 => cases given
  case h_1 answered next claimed =>
    rw [List.mem_singleton] at given
    injection given with _ same
    subst same
    rcases queued_of_claimJob claimed with ⟨job, jobFound, queued⟩
    have ended := ended_or_expired accounted backs (by
      intro lease leaseFound leaseOpen
      rcases backs with ⟨row, rowFound, rowJob, -⟩
      rw [leaseFound] at rowFound
      injection rowFound with same
      subst same
      rcases sound.openJob (leaseView leaseFound) leaseOpen with ⟨held, heldFound, -, -, leased⟩
      rw [show (Ledger.leaseState lease).jobId = claim.jobId from rowJob.trans ofJob,
        jobView jobFound] at heldFound
      injection heldFound with equal
      exact leased.1 (equal ▸ queued))
    have kept : ∃ new, (step platform settings state
        (.operate (.claim recovery request))).ledger.events = start.events ++ new := by
      rw [step, if_pos admissible]
      have untouched : QueueUntouched start
          ((Operation.claim recovery request).commit platform settings start) :=
        queueUntouched_of_does (Operation.commit_of_worker rfl sound)
      rcases untouched.events with ⟨new, appended, -⟩
      exact ⟨new, appended⟩
    rcases kept with ⟨new, appended⟩
    rw [appended]
    exact ended.imp (fun byWorker => byWorker.append new) id

theorem Tracked.leaseExclusion (tracked : Tracked state) :
    LeaseExclusion platform settings state where
  bounded := by
    intro workerId active found
    rcases tracked.active workerId active found with ⟨lease, leaseFound, job, -, worker, lasts⟩
    exact ⟨lease, leaseFound, worker, job, lasts⟩
  forward event := tracked.forward event
  closed event := by
    intro leaseId lease later found active unreleased laterFound laterClosed
    exact tracked.closed event found ⟨active, unreleased⟩ laterFound laterClosed
  handedOn admissible given := tracked.handedOn admissible given
  exclusive leftHolds rightHolds sameJob := tracked.exclusive leftHolds rightHolds sameJob

end

theorem tracked_run (platform : Platform) (settings : Settings) (clock : Time)
    (events : List Event) : Tracked (run (step platform settings) (.initial clock) events) :=
  run_preserves Tracked (fun _ event tracked => tracked.next event) (.initial clock) events

/-- In every run, whatever the network does: a Worker stops at its own deadline
before its Job is taken from it, unless it has reported the end itself. -/
theorem lease_exclusion (platform : Platform) (settings : Settings) (clock : Time)
    (events : List Event) :
    LeaseExclusion platform settings (run (step platform settings) (.initial clock) events) :=
  (tracked_run platform settings clock events).leaseExclusion

/-! ## Where exclusion ends -/

/-- A lease that has expired stays as it is. -/
def NeverExtendedLate (platform : Platform) (settings : Settings) (state : State) : Prop :=
  ∀ event leaseId lease later, state.ledger.leases.find? leaseId = some lease →
    (step platform settings state event).ledger.leases.find? leaseId = some later →
    lease.expiresAt ≤ state.clock → later.expiresAt = lease.expiresAt

def OneHolder (state : State) : Prop :=
  ∀ left right leftActive rightActive, state.Holds left leftActive →
    state.Holds right rightActive → leftActive.claim.jobId = rightActive.claim.jobId → left = right

theorem step_operate {platform : Platform} {settings : Settings} {state : State}
    {operation : Operation} (admissible : Admissible state.clock operation) :
    step platform settings state (.operate operation) =
      { state with
        ledger := perform platform settings state.ledger operation
        inFlight := state.inFlight ++ answers platform settings state.ledger operation } :=
  if_pos admissible

def firstClaim : JobClaim :=
  claimOf sampleSettings sampleRequest 1 (createdJob samplePlatform plainConfig 0)
    plainConfig.normal (samplePlatform.configSha256 plainConfig) (some (sampleTransfer 1), none)

/-- The first Worker has claimed the Job and its answer is on the way. -/
def claimedState : State where
  clock := 10000
  ledger := heldLedger
  inFlight := [.claimed 1 firstClaim]
  active _ := none

/-- A run of requests that send nothing to the Workers. -/
theorem run_operate {platform : Platform} {settings : Settings} {operations : List Operation}
    (silent : ∀ operation ∈ operations, ∀ ledger, answers platform settings ledger operation = [])
    (state : State) (admissible : ∀ operation ∈ operations, Admissible state.clock operation) :
    run (step platform settings) state (operations.map .operate) =
      { state with ledger := run (perform platform settings) state.ledger operations } := by
  induction operations generalizing state with
  | nil => rfl
  | cons operation operations induction =>
      rw [List.map_cons, run_cons, step_operate (admissible _ List.mem_cons_self),
        silent _ List.mem_cons_self, List.append_nil,
        induction (fun other member => silent other (List.mem_cons_of_mem _ member))]
      · rfl
      · exact fun other member => admissible other (List.mem_cons_of_mem _ member)

theorem run_claimed :
    run (step samplePlatform sampleSettings) (.initial 10000)
      (arrival.map .operate ++ [.operate abandonment]) = claimedState := by
  have answered : answers samplePlatform sampleSettings queuedLedger abandonment =
      [.claimed 1 firstClaim] := by
    have recovered : recover samplePlatform sampleSettings queuedLedger ⟨1000, []⟩ =
        queuedLedger := rfl
    rw [abandonment, answers, recovered, claimJob_queuedLedger]
    rfl
  have silent : ∀ operation ∈ arrival, ∀ ledger,
      answers samplePlatform sampleSettings ledger operation = [] := by
    simp [arrival, answers]
  have admissible : ∀ operation ∈ arrival, Admissible (State.initial 10000).clock operation := by
    simp [arrival, Admissible, Operation.forcesRevocation, Operation.readings, State.initial]
  have timely : Admissible 10000 abandonment := by
    simp [abandonment, Admissible, Operation.forcesRevocation, Operation.readings, sampleRequest]
  have empty : (State.initial 10000).ledger = .empty := rfl
  rw [run_append, run_operate silent _ admissible, empty, run_arrival, run_cons, run_nil,
    step_operate timely, perform_abandonment, answered]
  rfl

/-- A heartbeat that has read the clock in time and then waits for its locks for
two minutes. -/
def lateHeartbeat : Operation :=
  .heartbeat ⟨2000, []⟩ 1
    { status := .busy
      capabilities := sampleCapabilities
      current := some (1, 1)
      busyHasJob := by decide
      idleHasNone := by decide } 2000

theorem not_neverExtendedLate :
    ¬∀ clock events, NeverExtendedLate samplePlatform sampleSettings
      (run (step samplePlatform sampleSettings) (.initial clock) events) := by
  intro never
  have reached : run (step samplePlatform sampleSettings) (.initial 10000)
      ((arrival.map .operate ++ [.operate abandonment]) ++ [.tick 120000000]) =
        { claimedState with clock := 120010000 } := by
    rw [run_append, run_claimed]
    rfl
  have recovered : recover samplePlatform sampleSettings heldLedger ⟨2000, []⟩ = heldLedger := by
    have none : expiredLeases heldLedger 2000 100 [] = [] := by decide +kernel
    rw [recover, recoverExpiredLeases, none]
    rfl
  have extended : ((perform samplePlatform sampleSettings heldLedger lateHeartbeat).leases.find?
      1).map LeaseRow.expiresAt = some (leaseExpiry sampleSettings 2000) := by
    have attemptFound : heldLedger.attempts.find? heldLease.attemptId = some heldAttempt := rfl
    have current : ¬(heldLease.active = false ∨ heldLease.releasedAt ≠ none ∨
        heldLease.expiresAt ≤ 2000 ∨ heldLease.workerId ≠ 1 ∨ heldLease.jobId ≠ 1 ∨
        heldJob.workerId ≠ some 1 ∨ heldJob.currentAttemptId ≠ some heldLease.attemptId ∨
        heldAttempt.jobId ≠ 1 ∨ heldAttempt.workerId ≠ 1 ∨ heldAttempt.finishedAt ≠ none ∨
        heldWorker.currentJobId ≠ some 1) := by
      decide +kernel
    rw [perform, lateHeartbeat, Operation.start, recovered, Operation.commit, heartbeat]
    simp only [heldLedger_lease, heldLedger_job, attemptFound, validatedJobConfig_heldJob,
      heldLedger_worker]
    rw [if_neg (by simp [Except.toOption]), if_neg current]
    simp only [committed, Table.find?_modify_self, heldLedger_lease]
    decide +kernel
  rcases Option.map_eq_some_iff.mp extended with ⟨later, laterFound, until_⟩
  have kept := never 10000
    ((arrival.map .operate ++ [.operate abandonment]) ++ [.tick 120000000])
    (.operate lateHeartbeat) 1 heldLease later
  rw [reached] at kept
  have timely : Admissible 120010000 lateHeartbeat := by
    simp [lateHeartbeat, Admissible, Operation.forcesRevocation, Operation.readings]
  rw [step_operate timely] at kept
  have same := kept heldLedger_lease laterFound (by decide +kernel)
  rw [until_] at same
  exact absurd same (by decide +kernel)

def failure : JobStatusUpdate where
  leaseId := 1
  status := .failed
  occurredAt := 2000
  currentEpoch := none
  telemetryCounts := some (0, 0)
  errorCode := some "runtime_error"
  errorMessage := some "training process failed"
  failedHasMessage := by decide
  errorOnlyFailed := by decide
  countsOnlyTerminal := by decide

def failedLedger : Ledger :=
  writeTerminal sampleSettings heldLedger 1 1 1 failure .assigned .failed 2000

def failureClock : StatusClock := ⟨2000, 2000, 2000, 2000⟩

theorem precheckStatus_failure (inventory : ArtifactInventory) :
    precheckStatus samplePlatform heldLedger 1 1 failure inventory .ready failureClock.checkedAt =
      .ok (1, .assigned) := by
  have epoch : validateCurrentEpoch heldJob failure.currentEpoch = .ok () := rfl
  have targeted : validateTarget heldJob failure = .ok .failed := by decide +kernel
  have attemptFound : heldLedger.attempts.find? heldLease.attemptId = some heldAttempt := rfl
  have required : requireActiveLease samplePlatform heldLedger 1 1 failure.leaseId
      failureClock.checkedAt = .ok heldLease := by
    rw [requireActiveLease, show failure.leaseId = 1 from rfl]
    simp only [heldLedger_lease, heldLedger_job, attemptFound, validatedJobConfig_heldJob]
    rw [if_neg (by decide), if_neg (by decide +kernel), if_neg (by decide),
      if_neg (by simp [Except.toOption])]
  rw [precheckStatus, required]
  simp only [heldLedger_job, epoch, targeted]
  rfl

theorem lockCurrentStatusClaim_failure :
    lockCurrentStatusClaim samplePlatform heldLedger 1 1 1 failure.leaseId .assigned
      failureClock.lockedAt = .ok ⟨heldLease, heldJob, heldAttempt, heldWorker⟩ := by
  rw [lockCurrentStatusClaim, show failure.leaseId = 1 from rfl]
  simp only [heldLedger_lease, heldLedger_job, heldLedger_attempt, validatedJobConfig_heldJob,
    heldLedger_worker]
  rw [if_neg (by simp [Except.toOption]), if_neg (by decide +kernel)]

theorem updateJobStatus_failure (inventory : ArtifactInventory) :
    updateJobStatus samplePlatform sampleSettings heldLedger heldLedger 1 1 failure inventory
      .ready inventory failureClock = .ok (⟨1, .failed, none⟩, failedLedger) :=
  (updateJobStatus_of_checked (precheckStatus_failure inventory)).trans
    (commitStatus_of_terminal lockCurrentStatusClaim_failure lockCurrentStatusClaim_failure
      (by decide +kernel) rfl (by decide) (by decide) rfl)

def failedJob : JobRow :=
  { heldJob with
    status := .failed
    errorCode := failure.errorCode
    errorMessage := failure.errorMessage }

def failedAttempt : AttemptRow :=
  { heldAttempt with
    status := .failed
    errorCode := failure.errorCode
    errorMessage := failure.errorMessage
    telemetryCounts := failure.telemetryCounts
    finishedAt := some 2000 }

def requeuedJob : JobRow :=
  { createdJob samplePlatform plainConfig 0 with attemptCount := 1 }

def requeuedLedger : Ledger :=
  { failedLedger with
    jobs := .single 1 requeuedJob
    events := failedLedger.events ++
      [⟨1, some 1, some .failed, .retrying, 3000, .manager⟩,
        ⟨1, some 1, some .retrying, .queued, 3000, .manager⟩] }

theorem storesConfig_sample :
    StoresConfig plainConfig failedJob ∧ StoresConfig plainConfig requeuedJob := by
  have stores := storesConfig_createdJob samplePlatform plainConfig 0
  exact ⟨⟨stores.jobName, stores.experimentId, stores.datasetId, stores.totalEpoch,
    stores.priority, stores.testSetId⟩, ⟨stores.jobName, stores.experimentId, stores.datasetId,
    stores.totalEpoch, stores.priority, stores.testSetId⟩⟩

theorem retryJob_failedLedger :
    retryJob samplePlatform failedLedger 1 true 3000 = .ok ((), requeuedLedger) := by
  have jobFound : failedLedger.jobs.find? 1 = some failedJob := rfl
  have attemptFound : failedLedger.attempts.find? 1 = some failedAttempt := rfl
  have current : failedJob.currentAttemptId = some 1 := rfl
  have valid : validatedJobConfig samplePlatform 1 failedJob (some failedAttempt) =
      .ok plainConfig.normal :=
    validatedJobConfig_sample storesConfig_sample.1 rfl rfl
      (by simp [failedAttempt, heldAttempt, failedJob, heldJob, createdJob])
  rw [retryJob]
  simp only [jobFound, current, attemptFound, valid]
  rw [if_neg (by decide), if_neg (by decide), if_neg (by simp [Except.toOption])]
  rfl

def secondRequest : ClaimRequest :=
  { sampleRequest with
    workerId := 2
    attemptId := 2
    leaseId := 2
    now := 4000 }

def secondClaim : JobClaim :=
  claimOf sampleSettings secondRequest 1 requeuedJob plainConfig.normal
    (samplePlatform.configSha256 plainConfig) (some (sampleTransfer 1), none)

theorem claimJob_requeuedLedger :
    ∃ next, claimJob samplePlatform sampleSettings requeuedLedger secondRequest =
      .ok (some secondClaim, next) := by
  have ready : ReadyToClaim requeuedLedger secondRequest.workerId :=
    ⟨{ sampleWorker with name := "worker-2" }, rfl, rfl, rfl, by decide, rfl⟩
  have candidates : claimCandidates requeuedLedger = [(1, requeuedJob)] := rfl
  have valid : validatedJobConfig samplePlatform 1 requeuedJob none = .ok plainConfig.normal :=
    validatedJobConfig_sample storesConfig_sample.2 rfl rfl (by simp)
  have offered : offeredInputs sampleSettings secondRequest 1 requeuedJob plainConfig.normal =
      .ok (some (some (sampleTransfer 1), none)) := by
    decide +kernel
  exact ⟨_, claimJob_sample ready candidates valid offered rfl rfl rfl⟩

/-- The Worker starts and reports a failure, the user retries the Job, another
Worker claims it, and the first one has not stopped yet. -/
def handover : List Event :=
  [.deliver 0 0,
    .operate (.updateJobStatus heldLedger 1 1 failure ⟨false, false⟩ .ready ⟨false, false⟩
      failureClock),
    .operate (.retryJob 1 true 3000),
    .operate (.claim ⟨4000, []⟩ secondRequest),
    .deliver 1 0]

def firstActive : ActiveJob := .start firstClaim 10000

def secondActive : ActiveJob := .start secondClaim 10000

section

variable {platform : Platform} {settings : Settings} {ledger next : Ledger} {jobId : JobId}

theorem perform_updateJobStatus {earlier : Ledger} {workerId : WorkerId}
    {update : JobStatusUpdate} {inventory inventoryAtCommit : ArtifactInventory}
    {samples : SampleCompletion} {clock : StatusClock} {ack : StatusAck}
    (accepted : updateJobStatus platform settings earlier ledger workerId jobId update inventory
      samples inventoryAtCommit clock = .ok (ack, next)) :
    perform platform settings ledger (.updateJobStatus earlier workerId jobId update inventory
      samples inventoryAtCommit clock) = next :=
  congrArg (committed ledger) accepted

theorem perform_retryJob {ownsExperiment : Bool} {now : Time}
    (accepted : retryJob platform ledger jobId ownsExperiment now = .ok ((), next)) :
    perform platform settings ledger (.retryJob jobId ownsExperiment now) = next :=
  congrArg (committed ledger) accepted

end

theorem run_handover :
    ∃ ledger, run (step samplePlatform sampleSettings) claimedState handover =
      ((⟨10000, ledger, [.claimed 1 firstClaim, .claimed 2 secondClaim], fun _ => none⟩ :
        State).setActive 1 (some firstActive)).setActive 2 (some secondActive) := by
  have started : step samplePlatform sampleSettings claimedState (.deliver 0 0) =
      claimedState.setActive 1 (some firstActive) := rfl
  have failed : perform samplePlatform sampleSettings heldLedger
      (.updateJobStatus heldLedger 1 1 failure ⟨false, false⟩ .ready ⟨false, false⟩
        failureClock) = failedLedger :=
    perform_updateJobStatus (updateJobStatus_failure _)
  have retried : perform samplePlatform sampleSettings failedLedger (.retryJob 1 true 3000) =
      requeuedLedger :=
    perform_retryJob retryJob_failedLedger
  have recovered : recover samplePlatform sampleSettings requeuedLedger ⟨4000, []⟩ =
      requeuedLedger := by
    have none : expiredLeases requeuedLedger 4000 100 [] = [] := by decide +kernel
    rw [recover, recoverExpiredLeases, none]
    rfl
  rcases claimJob_requeuedLedger with ⟨next, claimed⟩
  have assigned : perform samplePlatform sampleSettings requeuedLedger
      (.claim ⟨4000, []⟩ secondRequest) = next := by
    rw [perform, Operation.start, recovered, Operation.commit, claimed]
    rfl
  have answered : answers samplePlatform sampleSettings requeuedLedger
      (.claim ⟨4000, []⟩ secondRequest) = [.claimed 2 secondClaim] := by
    rw [answers, recovered, claimed]
    rfl
  have timelyFailure : Admissible 10000 (.updateJobStatus heldLedger 1 1 failure ⟨false, false⟩
      .ready ⟨false, false⟩ failureClock) := by
    simp [Admissible, Operation.forcesRevocation, Operation.readings, failureClock]
  have timelyRetry : Admissible 10000 (.retryJob 1 true 3000) := by
    simp [Admissible, Operation.forcesRevocation, Operation.readings]
  have timelyClaim : Admissible 10000 (.claim ⟨4000, []⟩ secondRequest) := by
    simp [Admissible, Operation.forcesRevocation, Operation.readings, secondRequest]
  refine ⟨next, ?_⟩
  rw [handover, run_cons, started, run_cons, step_operate timelyFailure, run_cons,
    step_operate timelyRetry, run_cons, step_operate timelyClaim]
  simp only [State.setActive, claimedState, failed, retried, assigned, answered]
  rfl

theorem not_oneHolder :
    ¬∀ clock events, OneHolder
      (run (step samplePlatform sampleSettings) (.initial clock) events) := by
  intro one
  rcases run_handover with ⟨ledger, reached⟩
  have excluded := one 10000 ((arrival.map .operate ++ [.operate abandonment]) ++ handover)
    1 2 firstActive secondActive
  rw [run_append, run_claimed, reached] at excluded
  have distinct : (1 : WorkerId) ≠ 2 := by decide
  apply distinct
  apply excluded
  · exact ⟨by simp [State.setActive], show 10000 < firstActive.leaseExpiresAt by decide +kernel⟩
  · exact ⟨by simp [State.setActive], show 10000 < secondActive.leaseExpiresAt by decide +kernel⟩
  · rfl

/-- A request may wait between its clock reading and its commit, and a Worker that
has reported the end of its attempt may run on. -/
theorem late_extension_and_two_holders :
    (¬∀ clock events, NeverExtendedLate samplePlatform sampleSettings
      (run (step samplePlatform sampleSettings) (.initial clock) events)) ∧
    ¬∀ clock events, OneHolder
      (run (step samplePlatform sampleSettings) (.initial clock) events) :=
  ⟨not_neverExtendedLate, not_oneHolder⟩

end RvcOrchestrator.Fleet

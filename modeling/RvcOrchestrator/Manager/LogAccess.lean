import RvcOrchestrator.Manager.Administration
import RvcOrchestrator.Manager.LogStream

/-! # Who reads logs with which token

Logins, changes of accounts, authenticated requests and open log streams, interleaved
in any order. A request checks its token once; a stream checks its access again before
every batch.
-/

namespace RvcOrchestrator.Manager

open RvcOrchestrator.Foundation RvcOrchestrator.Contracts

/-! ## Access to a Job -/

abbrev Experiments := Table String UserId

def requireJobOwnerOrAdmin (ledger : Ledger) (experiments : Experiments) (jobId : JobId)
    (userId : UserId) (user : User) : Bool :=
  match ledger.jobs.find? jobId with
  | none => false
  | some job =>
      match experiments.find? job.experimentId with
      | none => false
      | some createdBy => user.role = .admin || createdBy = userId

section

variable {Digest : Type} [DecidableEq Digest]

def streamAccessIsActive (accounts : Accounts Digest) (ledger : Ledger)
    (experiments : Experiments) (claims : AccessTokenClaims) (jobId : JobId) : Bool :=
  if claims.jti ∈ accounts.revokedTokens then false
  else
    match accounts.users.find? claims.subject with
    | none => false
    | some user =>
        if user.disabled then false
        else requireJobOwnerOrAdmin ledger experiments jobId claims.subject user

/-! ## The portal -/

structure JobLogStream where
  claims : AccessTokenClaims
  jobId : JobId
  filters : JobLogFilters
  cursor : Option LogCursor

/-- An item of a response, and whether its token was issued before a change of its
user. -/
structure ResponseItem where
  claims : AccessTokenClaims
  outdated : Bool

structure Portal (Digest : Type) [DecidableEq Digest] where
  accounts : Accounts Digest
  ledger : Ledger
  experiments : Experiments
  issued : List AccessTokenClaims
  /-- The tokens that were issued before a committed change of their user. -/
  outdated : List AccessTokenClaims
  streams : List JobLogStream
  responses : List ResponseItem

def Portal.initial (accounts : Accounts Digest) : Portal Digest where
  accounts := accounts
  ledger := .empty
  experiments := .empty
  issued := []
  outdated := []
  streams := []
  responses := []

inductive PortalEvent where
  | login (userId : UserId) (jti : String)
  | logout (claims : AccessTokenClaims)
  /-- An administrator's transaction. -/
  | administer (request : AdminRequest)
  | createExperiment (experimentId : String) (createdBy : UserId)
  | operate (operation : Operation)
  | ingest (logs : List JobLog)
  /-- A request with this token, answered by one item if it authenticates. -/
  | request (claims : AccessTokenClaims)
  | openStream (claims : AccessTokenClaims) (jobId : JobId) (filters : JobLogFilters)
      (after : Option LogCursor)
  /-- The stream at this place polls, and so many records of the batch are sent. -/
  | poll (place sent : Nat)

def accessChanged (before after : Table UserId User) (userId : UserId) : Bool :=
  match before.find? userId, after.find? userId with
  | some user, some later =>
      user.role ≠ later.role || user.disabled ≠ later.disabled ||
        user.passwordHash ≠ later.passwordHash
  | _, _ => false

def streamRecords (ledger : Ledger) (batchLimit : LogStreamBatchLimit) (stream : JobLogStream)
    (sent : Nat) : List JobLogRecord :=
  (fetchJobLogs ledger stream.jobId stream.filters stream.cursor batchLimit.1 false).1.take sent

variable (secrets : Secrets Digest) (platform : Platform) (settings : Settings)
  (batchLimit : LogStreamBatchLimit)

def pollStream (portal : Portal Digest) (place sent : Nat) (stream : JobLogStream) :
    Portal Digest :=
  if streamAccessIsActive portal.accounts portal.ledger portal.experiments stream.claims
      stream.jobId then
    let records := streamRecords portal.ledger batchLimit stream sent
    { portal with
      streams := portal.streams.set place { stream with
        cursor :=
          match records.getLast? with
          | none => stream.cursor
          | some last => some last.cursor }
      responses := portal.responses ++ records.map fun _ =>
        ⟨stream.claims, decide (stream.claims ∈ portal.outdated)⟩ }
  else { portal with streams := portal.streams.eraseIdx place }

def portalStep (portal : Portal Digest) : PortalEvent → Portal Digest
  | .login userId jti =>
      match portal.accounts.users.find? userId with
      | none => portal
      | some user =>
          if user.disabled then portal
          else { portal with issued := portal.issued ++ [⟨userId, jti, user.accessTokenVersion⟩] }
  | .logout claims => { portal with accounts := logout claims portal.accounts }
  | .administer request =>
      let accounts := (administer secrets request portal.accounts).2
      { portal with
        accounts := accounts
        outdated := portal.outdated ++ portal.issued.filter fun claims =>
          accessChanged portal.accounts.users accounts.users claims.subject }
  | .createExperiment experimentId createdBy =>
      if fresh : portal.experiments.find? experimentId = none then
        { portal with experiments := portal.experiments.insert experimentId createdBy fresh }
      else portal
  | .operate operation =>
      { portal with ledger := perform platform settings portal.ledger operation }
  | .ingest logs =>
      if Storable portal.ledger logs then
        { portal with ledger := { portal.ledger with logs := portal.ledger.logs ++ logs } }
      else portal
  | .request claims =>
      match requireUserAuth portal.accounts claims with
      | .error _ => portal
      | .ok _ =>
          { portal with
            responses := portal.responses ++ [⟨claims, decide (claims ∈ portal.outdated)⟩] }
  | .openStream claims jobId filters after =>
      match requireUserAuth portal.accounts claims with
      | .error _ => portal
      | .ok user =>
          if requireJobOwnerOrAdmin portal.ledger portal.experiments jobId claims.subject user then
            { portal with streams := portal.streams ++ [⟨claims, jobId, filters, after⟩] }
          else portal
  | .poll place sent =>
      match portal.streams[place]? with
      | none => portal
      | some stream => pollStream batchLimit portal place sent stream

/-! ## Versions and changes -/

variable {secrets platform settings batchLimit} {portal : Portal Digest}

/-- The version of an issued token is at most its user's, and smaller if the user was
changed since. -/
structure Versioned (portal : Portal Digest) : Prop where
  issued : ∀ claims ∈ portal.issued, ∃ user,
    portal.accounts.users.find? claims.subject = some user ∧
      claims.accessTokenVersion ≤ user.accessTokenVersion
  outdated : ∀ claims ∈ portal.outdated, ∃ user,
    portal.accounts.users.find? claims.subject = some user ∧
      claims.accessTokenVersion < user.accessTokenVersion

theorem versioned_initial (accounts : Accounts Digest) : Versioned (.initial accounts) where
  issued := by simp [Portal.initial]
  outdated := by simp [Portal.initial]

theorem Versioned.administer (versioned : Versioned portal) (request : AdminRequest) :
    Versioned (portalStep secrets platform settings batchLimit portal (.administer request)) := by
  have fenced := administer_tokensFenced secrets request portal.accounts
  constructor
  case issued =>
    intro claims member
    rcases versioned.issued claims member with ⟨user, found, atMost⟩
    rcases fenced claims.subject user found with ⟨later, laterFound, rises, -⟩
    exact ⟨later, laterFound, atMost.trans rises⟩
  case outdated =>
    intro claims member
    rcases List.mem_append.mp member with earlier | new
    · rcases versioned.outdated claims earlier with ⟨user, found, less⟩
      rcases fenced claims.subject user found with ⟨later, laterFound, rises, -⟩
      exact ⟨later, laterFound, less.trans_le rises⟩
    · rcases List.mem_filter.mp new with ⟨wasIssued, changed⟩
      rcases versioned.issued claims wasIssued with ⟨user, found, atMost⟩
      rcases fenced claims.subject user found with ⟨later, laterFound, -, raised⟩
      refine ⟨later, laterFound, atMost.trans_lt (raised ?_)⟩
      simp only [accessChanged, found, laterFound, Bool.or_eq_true, decide_eq_true_eq,
        or_assoc] at changed
      exact changed

theorem Versioned.of_same {other : Portal Digest} (versioned : Versioned portal)
    (users : other.accounts.users = portal.accounts.users) (issued : other.issued = portal.issued)
    (outdated : other.outdated = portal.outdated) : Versioned other := by
  constructor
  · rw [users, issued]
    exact versioned.issued
  · rw [users, outdated]
    exact versioned.outdated

theorem Versioned.step (versioned : Versioned portal) (event : PortalEvent) :
    Versioned (portalStep secrets platform settings batchLimit portal event) := by
  cases event with
  | login userId jti =>
      simp only [portalStep]
      split
      · exact versioned
      · next user found =>
          split
          · exact versioned
          · refine ⟨?_, versioned.outdated⟩
            intro claims member
            rcases List.mem_append.mp member with earlier | new
            · exact versioned.issued claims earlier
            · rw [List.mem_singleton.mp new]
              exact ⟨user, found, le_rfl⟩
  | logout claims =>
      rcases logout_eq claims portal.accounts with ⟨revokedTokens, left⟩
      refine versioned.of_same ?_ rfl rfl
      simp only [portalStep, left]
  | administer request => exact versioned.administer request
  | createExperiment experimentId createdBy =>
      simp only [portalStep]
      split
      · exact versioned.of_same rfl rfl rfl
      · exact versioned
  | operate operation => exact versioned.of_same rfl rfl rfl
  | ingest logs =>
      simp only [portalStep]
      split
      · exact versioned.of_same rfl rfl rfl
      · exact versioned
  | request claims =>
      simp only [portalStep]
      split
      · exact versioned
      · exact versioned.of_same rfl rfl rfl
  | openStream claims jobId filters after =>
      simp only [portalStep]
      split
      · exact versioned
      · split
        · exact versioned.of_same rfl rfl rfl
        · exact versioned
  | poll place sent =>
      simp only [portalStep]
      split
      · exact versioned
      · simp only [pollStream]
        split
        · exact versioned.of_same rfl rfl rfl
        · exact versioned.of_same rfl rfl rfl

/-! ## The fence -/

/-- No item was produced for a token that was issued before a change of its user. -/
def Fenced (portal : Portal Digest) : Prop :=
  ∀ item ∈ portal.responses, item.outdated = false

/-- The stream has lost its access for another reason: its token was revoked by a
logout, its user is disabled or gone, or may no longer see the Job. -/
def Shut (portal : Portal Digest) (stream : JobLogStream) : Prop :=
  stream.claims.jti ∈ portal.accounts.revokedTokens ∨
    ∀ user, portal.accounts.users.find? stream.claims.subject = some user →
      user.disabled = true ∨
        requireJobOwnerOrAdmin portal.ledger portal.experiments stream.jobId
          stream.claims.subject user = false

/-- A stream whose token is outdated has lost its access for another reason or has
nothing to send when it polls. -/
def OutdatedPollsSilent (batchLimit : LogStreamBatchLimit) (portal : Portal Digest) :
    PortalEvent → Prop
  | .poll place sent => ∀ stream, portal.streams[place]? = some stream →
      stream.claims ∈ portal.outdated →
        Shut portal stream ∨ streamRecords portal.ledger batchLimit stream sent = []
  | _ => True

theorem streamAccessIsActive_eq_false_iff (portal : Portal Digest) (stream : JobLogStream) :
    streamAccessIsActive portal.accounts portal.ledger portal.experiments stream.claims
      stream.jobId = false ↔ Shut portal stream := by
  unfold streamAccessIsActive Shut
  by_cases revoked : stream.claims.jti ∈ portal.accounts.revokedTokens
  · simp [revoked]
  · rcases found : portal.accounts.users.find? stream.claims.subject with _ | user
    · simp [revoked]
    · cases disabled : user.disabled <;> simp [revoked, disabled]

/-- A request does not authenticate with an outdated token. -/
theorem Versioned.not_outdated (versioned : Versioned portal) {claims : AccessTokenClaims}
    {user : User} (authenticated : requireUserAuth portal.accounts claims = .ok user) :
    claims ∉ portal.outdated := by
  intro outdated
  rcases versioned.outdated claims outdated with ⟨stored, found, less⟩
  unfold requireUserAuth at authenticated
  split at authenticated
  · cases authenticated
  · rw [found] at authenticated
    simp only at authenticated
    split at authenticated
    · cases authenticated
    · next accepted =>
        rw [not_or, ne_eq, Decidable.not_not] at accepted
        have same := accepted.2
        omega

theorem fenced_poll_iff (portal : Portal Digest) (place sent : Nat) {stream : JobLogStream}
    (found : portal.streams[place]? = some stream) :
    Fenced (pollStream batchLimit portal place sent stream) ↔
      Fenced portal ∧ OutdatedPollsSilent batchLimit portal (.poll place sent) := by
  have condition : OutdatedPollsSilent batchLimit portal (.poll place sent) ↔
      (stream.claims ∈ portal.outdated →
        Shut portal stream ∨ streamRecords portal.ledger batchLimit stream sent = []) := by
    constructor
    · intro silent
      exact silent stream found
    · intro silent other otherFound
      rw [found] at otherFound
      injection otherFound with same
      subst same
      exact silent
  rw [condition]
  unfold pollStream
  split
  · next active =>
      have opened : ¬Shut portal stream := by
        rw [← streamAccessIsActive_eq_false_iff, active]
        simp
      simp only [Fenced, List.forall_mem_append, List.forall_mem_map, opened, false_or]
      refine and_congr_right fun _ => ?_
      constructor
      · intro sentFenced outdated
        by_contra nonempty
        rcases List.exists_mem_of_ne_nil _ nonempty with ⟨record, member⟩
        have fenced := sentFenced record member
        rw [decide_eq_false_iff_not] at fenced
        exact fenced outdated
      · intro silent record member
        rw [decide_eq_false_iff_not]
        intro outdated
        rw [silent outdated] at member
        cases member
  · next inactive =>
      have shut : Shut portal stream :=
        (streamAccessIsActive_eq_false_iff portal stream).mp (by simpa using inactive)
      constructor
      · intro fenced
        exact ⟨fenced, fun _ => .inl shut⟩
      · intro both
        exact both.1

/-- Only a poll of a stream breaks the fence. -/
theorem Versioned.fenced_step_iff (versioned : Versioned portal) (event : PortalEvent) :
    Fenced (portalStep secrets platform settings batchLimit portal event) ↔
      Fenced portal ∧ OutdatedPollsSilent batchLimit portal event := by
  cases event with
  | login userId jti =>
      simp only [portalStep, OutdatedPollsSilent, and_true]
      split
      · rfl
      · split <;> rfl
  | logout claims => simp [portalStep, OutdatedPollsSilent, Fenced]
  | administer request => simp [portalStep, OutdatedPollsSilent, Fenced]
  | createExperiment experimentId createdBy =>
      simp only [portalStep, OutdatedPollsSilent, and_true]
      split <;> rfl
  | operate operation => simp [portalStep, OutdatedPollsSilent, Fenced]
  | ingest logs =>
      simp only [portalStep, OutdatedPollsSilent, and_true]
      split <;> rfl
  | request claims =>
      simp only [portalStep, OutdatedPollsSilent, and_true]
      split
      · rfl
      · next user authenticated =>
          have current := versioned.not_outdated authenticated
          simp only [Fenced, List.forall_mem_append, List.forall_mem_singleton, current,
            decide_false, and_true]
  | openStream claims jobId filters after =>
      simp only [portalStep, OutdatedPollsSilent, and_true]
      split
      · rfl
      · split <;> rfl
  | poll place sent =>
      simp only [portalStep]
      split
      · next missing =>
          constructor
          · intro fenced
            refine ⟨fenced, ?_⟩
            intro stream found
            rw [missing] at found
            cases found
          · intro both
            exact both.1
      · next stream found => exact fenced_poll_iff portal place sent found

/-- In every run, no item is produced for a token that was issued before a change of
its user, if and only if no stream with such a token polls while its user could still
open it and there is something to send. -/
theorem access_tokens_fenced_iff (secrets : Secrets Digest) (platform : Platform)
    (settings : Settings) (batchLimit : LogStreamBatchLimit) (accounts : Accounts Digest)
    (events : List PortalEvent) :
    Fenced (run (portalStep secrets platform settings batchLimit) (.initial accounts) events) ↔
      Along (portalStep secrets platform settings batchLimit) (OutdatedPollsSilent batchLimit)
        (.initial accounts) events := by
  have exact : Fenced (run (portalStep secrets platform settings batchLimit) (.initial accounts)
      events) ↔ Fenced (.initial accounts) ∧
        Along (portalStep secrets platform settings batchLimit) (OutdatedPollsSilent batchLimit)
          (.initial accounts) events :=
    run_iff_along Versioned Fenced (fun _ event versioned => versioned.step event)
      (fun _ event versioned => versioned.fenced_step_iff event) (versioned_initial accounts) events
  apply exact.trans
  constructor
  · intro both
    exact both.2
  · intro along
    refine ⟨?_, along⟩
    simp [Fenced, Portal.initial]

theorem portal_run_operate (portal : Portal Digest) (operations : List Operation) :
    run (portalStep secrets platform settings batchLimit) portal
        (operations.map PortalEvent.operate) =
      { portal with ledger := run (perform platform settings) portal.ledger operations } := by
  induction operations generalizing portal with
  | nil => rfl
  | cons operation operations induction =>
      rw [List.map_cons, run_cons, induction]
      rfl

end

/-! ## A password reset that leaves a stream open -/

def samplePortalStep : Portal Json → PortalEvent → Portal Json :=
  portalStep sampleSecrets samplePlatform sampleSettings sampleBatchLimit

def sampleClaims : AccessTokenClaims := ⟨"ada", "jti-1", 1⟩

def reading : List PortalEvent :=
  (arrival ++ [abandonment]).map .operate ++
    [.ingest [sampleLog 0], .createExperiment heldJob.experimentId "ada", .login "ada" "jti-1",
      .openStream sampleClaims 1 {} none]

def resetting : AdminRequest :=
  sampleAdminRequest "ada" 1 "key-5"
    (.passwordReset "ada" ⟨firstVersion, "orange-kettle-42-violin"⟩) ""

def readingPortal (accounts : Accounts Json) (outdated : List AccessTokenClaims) : Portal Json where
  accounts := accounts
  ledger := { heldLedger with logs := [sampleLog 0] }
  experiments := .single heldJob.experimentId "ada"
  issued := [sampleClaims]
  outdated := outdated
  streams := [⟨sampleClaims, 1, {}, none⟩]
  responses := []

theorem run_reading :
    run samplePortalStep (.initial sampleAccounts) reading = readingPortal sampleAccounts [] := by
  have storable : Storable heldLedger [sampleLog 0] :=
    storable_held List.nodup_nil List.not_mem_nil
  have reached : run samplePortalStep (.initial sampleAccounts)
      ((arrival ++ [abandonment]).map .operate) =
        { Portal.initial sampleAccounts with ledger := heldLedger } := by
    rw [samplePortalStep, portal_run_operate, Portal.initial, run_heldLedger]
  have ingested : samplePortalStep { Portal.initial sampleAccounts with ledger := heldLedger }
      (.ingest [sampleLog 0]) =
        { Portal.initial sampleAccounts with
          ledger := { heldLedger with logs := [sampleLog 0] } } := by
    rw [samplePortalStep, portalStep, if_pos storable]
    rfl
  rw [reading, run_append, reached, run_cons, ingested]
  rfl

theorem step_resetting :
    samplePortalStep (readingPortal sampleAccounts []) (.administer resetting) =
      readingPortal (administer sampleSecrets resetting sampleAccounts).2 [sampleClaims] := by
  have changed : accessChanged sampleAccounts.users
      (administer sampleSecrets resetting sampleAccounts).2.users "ada" = true := by
    decide +kernel
  simp only [samplePortalStep, portalStep, readingPortal, List.nil_append, List.filter_cons,
    sampleClaims, changed, if_true, List.filter_nil]

def openedStream : JobLogStream := ⟨sampleClaims, 1, {}, none⟩

def resetPortal : Portal Json :=
  readingPortal (administer sampleSecrets resetting sampleAccounts).2 [sampleClaims]

theorem run_resetting :
    run samplePortalStep (.initial sampleAccounts) (reading ++ [.administer resetting]) =
      resetPortal := by
  rw [run_append, run_reading, run_cons, step_resetting, run_nil, resetPortal]

theorem not_shut_openedStream : ¬Shut resetPortal openedStream := by
  have stored : (resetPortal.accounts.users.find? "ada").map (fun user =>
      (user.disabled, user.role)) = some (false, .admin) := by decide +kernel
  rcases Option.map_eq_some_iff.mp stored with ⟨user, found, fields⟩
  injection fields with enabled administrator
  have visible : requireJobOwnerOrAdmin resetPortal.ledger resetPortal.experiments 1 "ada" user =
      true := by
    rw [requireJobOwnerOrAdmin, show resetPortal.ledger.jobs.find? 1 = _ from heldLedger_job]
    simp only [administrator, decide_true, Bool.true_or]
    rfl
  rintro (revoked | refused)
  · exact absurd revoked (by decide +kernel)
  · rcases refused user found with disabled | hidden
    · rw [enabled] at disabled
      cases disabled
    · cases visible.symm.trans hidden

theorem streamRecords_openedStream :
    streamRecords resetPortal.ledger sampleBatchLimit openedStream 100 = [sampleRecord 0] := by
  have joined := joinedLogs_held [0]
  rw [List.map_singleton, List.map_singleton] at joined
  rw [streamRecords, fetchJobLogs_eq, shownLogs,
    show resetPortal.ledger = { heldLedger with logs := [sampleLog 0] } from rfl, joined]
  rfl

/-- Her stream goes on with the token that the reset was to invalidate. -/
theorem stream_survives_password_reset :
    ¬∀ events, Fenced (run (portalStep sampleSecrets samplePlatform sampleSettings
      sampleBatchLimit) (.initial sampleAccounts) events) := by
  intro fenced
  have polled : Fenced (run samplePortalStep (.initial sampleAccounts)
      (reading ++ [.administer resetting] ++ [.poll 0 100])) := fenced _
  rw [run_append, run_resetting, run_cons, run_nil] at polled
  have found : resetPortal.streams[0]? = some openedStream := rfl
  have silent := (fenced_poll_iff resetPortal 0 100 found).mp polled
  rcases silent.2 openedStream found (List.mem_singleton.mpr rfl) with shut | empty
  · exact not_shut_openedStream shut
  · rw [streamRecords_openedStream] at empty
    cases empty

end RvcOrchestrator.Manager

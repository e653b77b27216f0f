import RvcOrchestrator.Foundation.Workforce
import RvcOrchestrator.Manager.Outbox

/-! # Projecting the MLflow outbox

Replicas claim events of the outbox, project them with several calls to the tracking server,
and report what came of it. A replica may stop between any two of these steps, and a claim
that is too old is recovered.
-/

namespace RvcOrchestrator.Manager

open RvcOrchestrator.Foundation RvcOrchestrator.Contracts

/-! ## Rows -/

abbrev EventId := Nat

inductive SyncStatus where
  | pending
  | processing
  | synced
deriving DecidableEq

/-- What the payload of an event says to the projection. Parameters and metrics are counted. -/
inductive SyncPayload where
  | experimentCreated
  | jobCreated (job : JobId) (params : Nat)
  | metricBatch (job : JobId) (metrics : Nat)
  | artifactVerified (job : JobId)
  | jobTerminal (job : JobId) (status : JobStatus) (endTimeMs : Int)
deriving DecidableEq

structure MlflowSyncEvent where
  eventKey : String
  payload : SyncPayload
  status : SyncStatus
  attemptCount : Nat
  nextAttemptAt : Option Time
  lockedAt : Option Time
  lastErrorCode : Option String
  syncedAt : Option Time
  createdAt : Time
deriving DecidableEq

structure MlflowSettings where
  processingStaleSeconds : Nat
  retryMaxSeconds : Nat

/-- `ProjectionEvent` -/
structure ProjectionEvent where
  id : EventId
  eventKey : String
  payload : SyncPayload
  attemptCount : Nat
deriving DecidableEq

/-- The claim of a replica. Which of the claims of its event it is stands nowhere in the
database. -/
structure ProjectionClaim where
  event : ProjectionEvent
  number : Nat
deriving DecidableEq

namespace MlflowSyncEvent

variable (row : MlflowSyncEvent)

/-- Too old for `_recover_stale_processing`. -/
def Stale (settings : MlflowSettings) (now : Time) : Prop :=
  row.status = .processing ∧
    ∃ lockedAt ∈ row.lockedAt, lockedAt ≤ now - seconds settings.processingStaleSeconds

instance (settings : MlflowSettings) (now : Time) : Decidable (row.Stale settings now) :=
  inferInstanceAs (Decidable (_ ∧ _))

def recover (now : Time) : MlflowSyncEvent :=
  { row with status := .pending, lockedAt := none, nextAttemptAt := some now }

/-- What `_claim` looks for: the event with this key, or any event that is due. -/
def Claimable (now : Time) (eventKey : Option String) : Prop :=
  row.status = .pending ∧
    match eventKey with
    | none => ∀ nextAttemptAt ∈ row.nextAttemptAt, nextAttemptAt ≤ now
    | some key => row.eventKey = key

instance (now : Time) : (eventKey : Option String) → Decidable (row.Claimable now eventKey)
  | none => inferInstanceAs (Decidable (_ ∧ ∀ _ ∈ row.nextAttemptAt, _))
  | some _ => inferInstanceAs (Decidable (_ ∧ _ = _))

def claim (now : Time) : MlflowSyncEvent :=
  { row with status := .processing, lockedAt := some now, nextAttemptAt := none }

/-- The update of `_mark_synced`. -/
def markSynced (now : Time) (event : ProjectionEvent) : MlflowSyncEvent :=
  { row with
    status := .synced
    attemptCount := event.attemptCount + 1
    lockedAt := none
    nextAttemptAt := none
    lastErrorCode := none
    syncedAt := some now }

/-- The update of `_mark_retry`. -/
def markRetry (settings : MlflowSettings) (now : Time) (event : ProjectionEvent)
    (code : String) : MlflowSyncEvent :=
  let attempts := event.attemptCount + 1
  { row with
    status := .pending
    attemptCount := attempts
    lockedAt := none
    nextAttemptAt := some (now + seconds (min (2 ^ min attempts 8) settings.retryMaxSeconds))
    lastErrorCode := some code }

end MlflowSyncEvent

/-! ## The tracking server -/

/-- A run of the tracking server. The tags are the markers of what it has been told. -/
structure TrackedRun where
  job : JobId
  tags : List String
deriving DecidableEq

/-- `runs/update` -/
structure RunUpdate where
  run : Nat
  status : RunStatus
  endTimeMs : Int
deriving DecidableEq

/-- What a projection writes to its run, each time under a marker. -/
inductive ProjectionWrite where
  | logBatch (marker : String)
  | terminal (marker : String) (status : JobStatus) (endTimeMs : Int)
deriving DecidableEq

def ProjectionWrite.marker : ProjectionWrite → String
  | logBatch marker => marker
  | terminal marker _ _ => marker

def SyncPayload.job? : SyncPayload → Option JobId
  | experimentCreated => none
  | jobCreated job _ => some job
  | metricBatch job _ => some job
  | artifactVerified job => some job
  | jobTerminal job _ _ => some job

def batches (eventKey part : String) (count : Nat) : List ProjectionWrite :=
  (List.range count).map fun index => .logBatch (eventKey ++ part ++ toString index)

def ProjectionEvent.writes (event : ProjectionEvent) : List ProjectionWrite :=
  match event.payload with
  | .experimentCreated => []
  | .jobCreated _ params => batches event.eventKey ":params:" (max 1 ((params + 98) / 99))
  | .metricBatch _ metrics => batches event.eventKey ":metrics:" ((metrics + 998) / 999)
  | .artifactVerified _ => [.logBatch event.eventKey]
  | .jobTerminal _ status endTimeMs => [.terminal event.eventKey status endTimeMs]

/-! ## The state -/

structure MlflowStore where
  clock : Time
  events : EventId → Option MlflowSyncEvent
  ids : List EventId
  /-- How often each event has been claimed. No column holds it. -/
  claims : EventId → Nat
  runs : List TrackedRun
  /-- The newest first. -/
  updates : List RunUpdate

namespace MlflowStore

def empty : MlflowStore where
  clock := 0
  events _ := none
  ids := []
  claims _ := 0
  runs := []
  updates := []

variable (store : MlflowStore)

def setEvent (id : EventId) (row : MlflowSyncEvent) : MlflowStore :=
  { store with events := Function.update store.events id (some row) }

def amendEvent (id : EventId) (condition : MlflowSyncEvent → Bool)
    (update : MlflowSyncEvent → MlflowSyncEvent) : MlflowStore :=
  match store.events id with
  | none => store
  | some row => if condition row then store.setEvent id (update row) else store

/-- `_recover_stale_processing` of these events. -/
def recoverStale (settings : MlflowSettings) (now : Time) (ids : List EventId) : MlflowStore :=
  ids.foldl
    (fun store id => store.amendEvent id (fun row => row.Stale settings now) (·.recover now)) store

def staleIds (settings : MlflowSettings) (now : Time) : List EventId :=
  store.ids.filter fun id => (store.events id).any fun row => row.Stale settings now

def createdAt (id : EventId) : Time := ((store.events id).map (·.createdAt)).getD 0

/-- The order of the claims: by age, then by identifier. -/
def OlderOrSame (left right : EventId) : Prop :=
  store.createdAt left < store.createdAt right ∨
    store.createdAt left = store.createdAt right ∧ left ≤ right

instance : DecidableRel store.OlderOrSame := fun _ _ =>
  inferInstanceAs (Decidable (_ ∨ _))

/-- The candidate of `_claim`: the oldest that it may claim. -/
def candidateId (now : Time) (eventKey : Option String) : Option EventId :=
  ((store.ids.filter fun id => (store.events id).any fun row =>
    row.Claimable now eventKey).insertionSort store.OlderOrSame).head?

/-- The conditional claim of `_claim`. -/
def claimEvent (now : Time) (id : EventId) : Option (ProjectionClaim × MlflowStore) :=
  match store.events id with
  | none => none
  | some row =>
      if row.status = .pending then
        some (⟨⟨id, row.eventKey, row.payload, row.attemptCount⟩, store.claims id + 1⟩,
          { store.setEvent id (row.claim now) with
            claims := Function.update store.claims id (store.claims id + 1) })
      else none

def runsOf (job : JobId) : List Nat :=
  (List.range store.runs.length).filter fun run =>
    (store.runs[run]?).any fun tracked => tracked.job = job

def tagsOf (run : Nat) : List String :=
  ((store.runs[run]?).map (·.tags)).getD []

def createRun (job : JobId) : MlflowStore :=
  { store with runs := store.runs ++ [⟨job, []⟩] }

def setTag (run : Nat) (marker : String) : MlflowStore :=
  { store with runs := store.runs.modify run fun tracked =>
      { tracked with tags := marker :: tracked.tags } }

def updateRun (run : Nat) (status : RunStatus) (endTimeMs : Int) : MlflowStore :=
  { store with updates := ⟨run, status, endTimeMs⟩ :: store.updates }

end MlflowStore

/-! ## The projectors -/

inductive ProjectionStage where
  /-- `_ensure_experiment` and `_find_run_id` -/
  | locating
  | creating
  /-- `_find_run_id` after a failed creation. -/
  | relocating (code : String)
  /-- `_run_tags` before the next write. -/
  | checking (run : Nat) (remaining : List ProjectionWrite)
  | writing (run : Nat) (write : ProjectionWrite) (remaining : List ProjectionWrite)
  | tagging (run : Nat) (marker : String) (remaining : List ProjectionWrite)
deriving DecidableEq

inductive ProjectorPhase where
  /-- The first statements of `_claim`. -/
  | selecting (eventKey : Option String)
  /-- The last ones, with the events recovered and the candidate. -/
  | claiming (now : Time) (recovered : List EventId) (candidate : Option EventId)
  | projecting (claim : ProjectionClaim) (stage : ProjectionStage)
  /-- `_mark_synced` -/
  | succeeded (claim : ProjectionClaim)
  /-- `_mark_retry` -/
  | failed (claim : ProjectionClaim) (code : String)
deriving DecidableEq

/-- How the next call ends. A search returns any of the runs it finds. -/
inductive ProjectorChoice where
  | works (pick : Nat)
  | raises (code : String) (effective : Bool)
deriving DecidableEq

inductive ProjectorLaunch where
  | project (eventKey : Option String)
deriving DecidableEq

inductive MlflowDisturbance where
  | tick (elapsed : Nat)
  /-- `_enqueue`, in the transaction of its caller. -/
  | enqueue (id : EventId) (eventKey : String) (payload : SyncPayload)
deriving DecidableEq

section

variable (settings : MlflowSettings)

def nextWrite (claim : ProjectionClaim) (run : Nat) : List ProjectionWrite → ProjectorPhase
  | [] => .succeeded claim
  | write :: remaining => .projecting claim (.checking run (write :: remaining))

/-- `_ensure_run` has found a run, or there is none. -/
def located (store : MlflowStore) (claim : ProjectionClaim) (job : JobId) (pick : Nat)
    (missing : ProjectorPhase) : ProjectorPhase :=
  match (store.runsOf job)[pick % (store.runsOf job).length]? with
  | some run => nextWrite claim run claim.event.writes
  | none => missing

/-- One call of `project`. -/
def advanceProjection (store : MlflowStore) (claim : ProjectionClaim) (choice : ProjectorChoice) :
    ProjectionStage → ProjectorPhase × MlflowStore
  | .locating =>
      match choice, claim.event.payload.job? with
      | .raises code _, _ => (.failed claim code, store)
      | .works _, none => (.succeeded claim, store)
      | .works pick, some job =>
          (located store claim job pick (.projecting claim .creating), store)
  | .creating =>
      match claim.event.payload.job? with
      | none => (.succeeded claim, store)
      | some job =>
          match choice with
          | .works _ => (nextWrite claim store.runs.length claim.event.writes, store.createRun job)
          | .raises code effective =>
              (.projecting claim (.relocating code),
                if effective then store.createRun job else store)
  | .relocating code =>
      match choice, claim.event.payload.job? with
      | .raises other _, _ => (.failed claim other, store)
      | .works _, none => (.succeeded claim, store)
      | .works pick, some job => (located store claim job pick (.failed claim code), store)
  | .checking run remaining =>
      match choice, remaining with
      | _, [] => (.succeeded claim, store)
      | .raises code _, _ => (.failed claim code, store)
      | .works _, write :: remaining =>
          (if write.marker ∈ store.tagsOf run then nextWrite claim run remaining
            else .projecting claim (.writing run write remaining), store)
  | .writing run (.logBatch marker) remaining =>
      match choice with
      | .works _ => (nextWrite claim run remaining, store.setTag run marker)
      | .raises code effective =>
          (.failed claim code, if effective then store.setTag run marker else store)
  | .writing run (.terminal marker status endTimeMs) remaining =>
      match mlflowStatus status with
      | none => (.failed claim "invalid_event", store)
      | some runStatus =>
          match choice with
          | .works _ =>
              (.projecting claim (.tagging run marker remaining),
                store.updateRun run runStatus endTimeMs)
          | .raises code effective =>
              (.failed claim code,
                if effective then store.updateRun run runStatus endTimeMs else store)
  | .tagging run marker remaining =>
      match choice with
      | .works _ => (nextWrite claim run remaining, store.setTag run marker)
      | .raises code effective =>
          (.failed claim code, if effective then store.setTag run marker else store)

/-- `_project_one_locked`, one transaction or call at a time. What a transaction has read may
be out of date when it writes. -/
def advanceProjector (choice : ProjectorChoice) (phase : ProjectorPhase) (store : MlflowStore) :
    Option ProjectorPhase × MlflowStore :=
  match phase with
  | .selecting eventKey =>
      let now := store.clock
      let recovered := store.staleIds settings now
      (some (.claiming now recovered
        ((store.recoverStale settings now recovered).candidateId now eventKey)), store)
  | .claiming now recovered candidate =>
      let middle := store.recoverStale settings now recovered
      match candidate with
      | none => (none, middle)
      | some id =>
          match middle.claimEvent now id with
          | none => (none, store)
          | some (claim, after) => (some (.projecting claim .locating), after)
  | .projecting claim stage =>
      let next := advanceProjection store claim choice stage
      (some next.1, next.2)
  | .succeeded claim =>
      (none, store.amendEvent claim.event.id (fun row => row.status = .processing)
        (·.markSynced store.clock claim.event))
  | .failed claim code =>
      (none, store.amendEvent claim.event.id (fun row => row.status = .processing)
        (·.markRetry settings store.clock claim.event code))

def newSyncEvent (eventKey : String) (payload : SyncPayload) (now : Time) : MlflowSyncEvent where
  eventKey := eventKey
  payload := payload
  status := .pending
  attemptCount := 0
  nextAttemptAt := none
  lockedAt := none
  lastErrorCode := none
  syncedAt := none
  createdAt := now

def disturbMlflow (disturbance : MlflowDisturbance) (store : MlflowStore) : Option MlflowStore :=
  match disturbance with
  | .tick elapsed => some { store with clock := store.clock + elapsed }
  | .enqueue id eventKey payload =>
      if (store.events id).isSome ∨ store.ids.any fun other =>
          (store.events other).any fun row => row.eventKey = eventKey then none
      else
        some { store.setEvent id (newSyncEvent eventKey payload store.clock) with
          ids := id :: store.ids }

def mlflowWorkforce :
    Workforce MlflowStore ProjectorPhase ProjectorLaunch ProjectorChoice MlflowDisturbance where
  launch launch store := match launch with | .project eventKey => some (.selecting eventKey, store)
  advance := advanceProjector settings
  disturb := disturbMlflow

abbrev MlflowSituation := Workforce.Situation MlflowStore ProjectorPhase

abbrev MlflowEvent := Workforce.Event ProjectorLaunch ProjectorChoice MlflowDisturbance

/-- The situation after `events`, from an empty outbox. -/
def mlflowRun (events : List MlflowEvent) : MlflowSituation :=
  run (mlflowWorkforce settings).step ⟨.empty, []⟩ events

end

end RvcOrchestrator.Manager

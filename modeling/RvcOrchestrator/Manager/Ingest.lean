import RvcOrchestrator.Foundation.Workforce
import RvcOrchestrator.Manager.Telemetry

/-! # Telemetry ingest

A Worker sends its logs and metrics in batches. A request first checks its claim and finds
out what is new in the batch; it writes later, behind a fence unless the attempt is over.
In between any other request may commit.
-/

namespace RvcOrchestrator.Manager

open RvcOrchestrator.Foundation RvcOrchestrator.Contracts

/-! ## Batches -/

structure LogEntry where
  sequence : Nat
  level : LogLevel
  message : String
  occurredAt : Time
  /-- `"occurred_at" in model_fields_set`. -/
  occurredAtSet : Bool
  fields : Json
deriving DecidableEq

structure MetricEntry where
  sequence : Nat
  key : String
  value : PyFloat
  epoch : Option Nat
  step : Option Nat
  occurredAt : Time
  occurredAtSet : Bool
deriving DecidableEq

structure TelemetryBatch (Entry : Type) where
  leaseId : LeaseId
  attemptId : AttemptId
  idempotencyKey : String
  entries : List Entry
deriving DecidableEq

structure LogBatch extends TelemetryBatch LogEntry where
  uniqueSequences : (entries.map LogEntry.sequence).Nodup
deriving DecidableEq

structure MetricBatch extends TelemetryBatch MetricEntry where
  uniqueSequences : (entries.map MetricEntry.sequence).Nodup
deriving DecidableEq

structure OperationAck where
  accepted : Nat := 0
  duplicate : Bool := false
deriving DecidableEq

/-- How logs are redacted and instants printed. -/
structure TelemetryText where
  redactLogText : String → String
  redactLogFields : Json → Json
  isoformat : Time → String

/-! ## What logs and metrics differ in -/

structure TelemetryKind (Entry Row : Type) where
  batchType : BatchType
  sequence : Entry → Nat
  /-- What the fingerprint of a batch is taken over. -/
  document : Entry → Json
  entryMatches : Row → Entry → Bool
  conflict : String
  /-- The epoch an entry reports, against `total_epoch`. -/
  entryEpoch : Entry → Int → Except HttpError (Option Int)
  rows : Ledger → List Row
  rowAttempt : Row → AttemptId
  rowSequence : Row → Nat
  row : JobId → AttemptId → Entry → Row
  /-- The constraints of the table, once the rows are in it. -/
  storable : Ledger → List Row → Bool
  asLogs : List Row → List JobLog
  asMetrics : List Row → List Metric
  watermark : Nat × Nat → Nat
  outboxEvents : JobId → AttemptId → String → List OutboxEvent

def LogLevel.value : LogLevel → String
  | .debug => "debug"
  | .info => "info"
  | .warning => "warning"
  | .error => "error"

def occurredAtField (text : TelemetryText) (occurredAtSet : Bool) (occurredAt : Time) :
    List (String × Json) :=
  if occurredAtSet then [("occurred_at", .str (text.isoformat occurredAt))] else []

def logDocument (text : TelemetryText) (entry : LogEntry) : Json :=
  .object ([("sequence", .int entry.sequence), ("level", .str entry.level.value),
    ("message", .str (text.redactLogText entry.message)),
    ("fields", text.redactLogFields entry.fields)] ++
      occurredAtField text entry.occurredAtSet entry.occurredAt)

def optionalInt (value : Option Nat) : Json :=
  match value with
  | none => .null
  | some value => .int value

def metricDocument (text : TelemetryText) (entry : MetricEntry) : Json :=
  .object ([("sequence", .int entry.sequence), ("key", .str entry.key),
    ("value", .float entry.value), ("epoch", optionalInt entry.epoch),
    ("step", optionalInt entry.step)] ++
      occurredAtField text entry.occurredAtSet entry.occurredAt)

def logEntryMatches (text : TelemetryText) (stored : JobLog) (entry : LogEntry) : Bool :=
  stored.level = entry.level && stored.message = text.redactLogText entry.message &&
    stored.fieldsJson = text.redactLogFields entry.fields &&
    (!entry.occurredAtSet || stored.occurredAt = entry.occurredAt)

/-- Python compares the values as numbers. -/
def metricEntryMatches (stored : Metric) (entry : MetricEntry) : Bool :=
  stored.key = entry.key && stored.value.unsignedZero = entry.value.unsignedZero &&
    stored.epoch = entry.epoch && stored.step = entry.step &&
    (!entry.occurredAtSet || stored.occurredAt = entry.occurredAt)

def metricEpoch (entry : MetricEntry) (totalEpoch : Int) : Except HttpError (Option Int) :=
  let epoch : Option Int := entry.epoch.map Int.ofNat
  if epoch.any fun epoch => totalEpoch < epoch then
    .error ⟨422, "metric epoch exceeds total_epoch"⟩
  else if entry.key = "total_epoch" ∧ entry.value.value ≠ totalEpoch then
    .error ⟨422, "total_epoch metric does not match Job"⟩
  else if entry.key ≠ "current_epoch" then .ok epoch
  else if entry.value.value < 0 ∨ entry.value.value.den ≠ 1 then
    .error ⟨422, "current_epoch metric must be an integer"⟩
  else if totalEpoch < entry.value.value.num then
    .error ⟨422, "current_epoch metric exceeds total_epoch"⟩
  else if epoch.any fun epoch => epoch ≠ entry.value.value.num then
    .error ⟨422, "current_epoch metric conflicts with epoch"⟩
  else .ok (some entry.value.value.num)

/-- `ids` are the identifiers drawn for the new rows, by sequence. -/
def logKind (text : TelemetryText) (ids : Nat → Nat) : TelemetryKind LogEntry JobLog where
  batchType := .logs
  sequence := LogEntry.sequence
  document := logDocument text
  entryMatches := logEntryMatches text
  conflict := "log sequence conflicts with prior payload"
  entryEpoch _ _ := .ok none
  rows := Ledger.logs
  rowAttempt := JobLog.attemptId
  rowSequence := JobLog.sequence
  row jobId attemptId entry :=
    { id := ids entry.sequence
      jobId := jobId
      attemptId := attemptId
      sequence := entry.sequence
      level := entry.level
      message := text.redactLogText entry.message
      fieldsJson := text.redactLogFields entry.fields
      occurredAt := entry.occurredAt }
  storable ledger rows :=
    decide ((ledger.logs ++ rows).map JobLog.id).Nodup &&
      decide ((ledger.logs ++ rows).map fun log => (log.attemptId, log.sequence)).Nodup
  asLogs rows := rows
  asMetrics _ := []
  watermark := Prod.fst
  outboxEvents _ _ _ := []

def metricKind (text : TelemetryText) : TelemetryKind MetricEntry Metric where
  batchType := .metrics
  sequence := MetricEntry.sequence
  document := metricDocument text
  entryMatches := metricEntryMatches
  conflict := "metric sequence conflicts with prior payload"
  entryEpoch := metricEpoch
  rows := Ledger.metrics
  rowAttempt := Metric.attemptId
  rowSequence := Metric.sequence
  row jobId attemptId entry :=
    { jobId := jobId
      attemptId := attemptId
      sequence := entry.sequence
      epoch := entry.epoch
      step := entry.step
      key := entry.key
      value := entry.value
      occurredAt := entry.occurredAt }
  storable ledger rows :=
    decide ((ledger.metrics ++ rows).map fun metric => (metric.attemptId, metric.sequence)).Nodup
  asLogs _ := []
  asMetrics rows := rows
  watermark := Prod.snd
  outboxEvents jobId attemptId idempotencyKey := [.metricBatch jobId attemptId idempotencyKey]

/-! ## The claim and the fence -/

structure TelemetryClaim where
  workerId : WorkerId
  jobId : JobId
  leaseId : LeaseId
  attemptId : AttemptId
  sequences : List Nat

def claimChanged : HttpError := ⟨409, "job claim changed before telemetry commit"⟩

def lockTelemetryClaim (platform : Platform) (ledger : Ledger) (claim : TelemetryClaim)
    (watermark : Nat × Nat → Nat) (now : Time) : Except HttpError (JobRow × Bool) :=
  match ledger.leases.find? claim.leaseId with
  | none => .error ⟨409, "invalid job lease"⟩
  | some lease =>
      if lease.jobId ≠ claim.jobId ∨ lease.workerId ≠ claim.workerId then
        .error ⟨409, "invalid job lease"⟩
      else if lease.attemptId ≠ claim.attemptId then
        .error ⟨409, "batch attempt does not match lease"⟩
      else
        match ledger.jobs.find? claim.jobId, ledger.attempts.find? claim.attemptId,
          ledger.workers.find? claim.workerId with
        | some job, some attempt, some worker =>
            if attempt.jobId ≠ claim.jobId ∨ attempt.workerId ≠ claim.workerId ∨
                worker.isActive = false then
              .error claimChanged
            else if (validatedJobConfig platform claim.jobId job (some attempt)).toOption.isNone
            then .error ⟨409, "job configuration integrity check failed"⟩
            else if lease.active = true ∧ lease.releasedAt = none then
              if lease.expiresAt ≤ now then .error ⟨409, "job lease expired"⟩
              else if job.workerId ≠ some claim.workerId ∨
                  job.currentAttemptId ≠ some claim.attemptId ∨
                  job.status ∈ terminalJobStatuses ∨ attempt.finishedAt ≠ none ∨
                  attempt.status ≠ job.status ∨ attempt.status ∈ terminalJobStatuses ∨
                  attempt.telemetryCounts ≠ none ∨
                  worker.currentJobId ≠ some claim.jobId then
                .error claimChanged
              else .ok (job, false)
            else if lease.active = true ∨ lease.releasedAt = none ∨ attempt.finishedAt = none ∨
                attempt.status ∉ terminalJobStatuses then
              .error ⟨409, "job lease is not a terminal telemetry lease"⟩
            else
              match attempt.telemetryCounts with
              | none => .error ⟨409, "terminal attempt has no telemetry watermarks"⟩
              | some counts =>
                  if claim.sequences.any fun sequence => watermark counts ≤ sequence then
                    .error ⟨409, "telemetry sequence exceeds terminal watermark"⟩
                  else .ok (job, true)
        | _, _, _ => .error claimChanged

def retryableTelemetryFenceConflict : HttpError :=
  ⟨503, "telemetry claim changed; retry against the terminal watermark"⟩

def activeTelemetryWriteFence (ledger : Ledger) (claim : TelemetryClaim) (now : Time) : Bool :=
  (ledger.jobs.find? claim.jobId).any (fun job =>
    job.workerId = some claim.workerId && job.currentAttemptId = some claim.attemptId &&
      job.cancelRequestedAt = none && decide (job.status ∉ terminalJobStatuses)) &&
  (ledger.leases.find? claim.leaseId).any fun lease =>
    lease.jobId = claim.jobId && lease.attemptId = claim.attemptId &&
      lease.workerId = claim.workerId && lease.active && lease.releasedAt = none &&
      decide (now < lease.expiresAt)

def acquireActiveTelemetryWriteFence (platform : Platform) (ledger : Ledger)
    (claim : TelemetryClaim) (watermark : Nat × Nat → Nat) (fencedAt lockedAt : Time) :
    Except HttpError Unit :=
  if activeTelemetryWriteFence ledger claim fencedAt = false then
    .error retryableTelemetryFenceConflict
  else
    match lockTelemetryClaim platform ledger claim watermark lockedAt with
    | .error error => .error error
    | .ok (job, late) =>
        if late ∨ job.cancelRequestedAt ≠ none then .error retryableTelemetryFenceConflict
        else .ok ()

/-! ## The two halves of a request -/

def findIngestBatch (ledger : Ledger) (attemptId : AttemptId) (batchType : BatchType)
    (idempotencyKey : String) : Option IngestBatch :=
  ledger.batches.find? fun batch =>
    batch.attemptId = attemptId && batch.batchType = batchType &&
      batch.idempotencyKey = idempotencyKey

def validateBatchReplay (existing : IngestBatch) (fingerprint : String) :
    Except HttpError Unit :=
  if existing.payloadFingerprint ≠ fingerprint then
    .error ⟨409, "telemetry idempotency key conflicts with a prior batch"⟩
  else .ok ()

section

variable {Entry Row : Type} (platform : Platform) (settings : Settings)
  (kind : TelemetryKind Entry Row)

def batchFingerprint (batch : TelemetryBatch Entry) : String :=
  platform.sha256.digest (Json.array (batch.entries.map kind.document)).dumps

def telemetryClaim (workerId : WorkerId) (jobId : JobId) (batch : TelemetryBatch Entry) :
    TelemetryClaim where
  workerId := workerId
  jobId := jobId
  leaseId := batch.leaseId
  attemptId := batch.attemptId
  sequences := batch.entries.map kind.sequence

def incomingEpochs (totalEpoch : Int) : List Entry → Except HttpError (List (Entry × Option Int))
  | [] => .ok []
  | entry :: entries =>
      match kind.entryEpoch entry totalEpoch with
      | .error error => .error error
      | .ok epoch => (incomingEpochs totalEpoch entries).map fun rest => (entry, epoch) :: rest

def existingRow (ledger : Ledger) (attemptId : AttemptId) (entry : Entry) : Option Row :=
  (kind.rows ledger).find? fun row =>
    kind.rowAttempt row = attemptId && kind.rowSequence row = kind.sequence entry

structure CheckedBatch (Entry : Type) where
  late : Bool
  /-- The entries that are not stored yet, with the epochs they report. -/
  newEntries : List (Entry × Option Int)
deriving DecidableEq

/-- `none` for a batch that has been ingested before. -/
def checkBatch (ledger : Ledger) (workerId : WorkerId) (jobId : JobId)
    (batch : TelemetryBatch Entry) (now : Time) :
    Except HttpError (Option (CheckedBatch Entry)) :=
  match lockTelemetryClaim platform ledger (telemetryClaim kind workerId jobId batch)
    kind.watermark now with
  | .error error => .error error
  | .ok (job, late) =>
      match findIngestBatch ledger batch.attemptId kind.batchType batch.idempotencyKey with
      | some replay =>
          (validateBatchReplay replay (batchFingerprint platform kind batch)).map fun _ => none
      | none =>
          match incomingEpochs kind job.totalEpoch batch.entries with
          | .error error => .error error
          | .ok incoming =>
              if batch.entries.any fun entry =>
                  (existingRow kind ledger batch.attemptId entry).any fun stored =>
                    !kind.entryMatches stored entry then
                .error ⟨409, kind.conflict⟩
              else
                .ok (some
                  { late := late
                    newEntries := incoming.filter fun pair =>
                      (existingRow kind ledger batch.attemptId pair.1).isNone })

/-- The largest reported epoch becomes the Job's, unless the Job is further. -/
def projectEpoch (epochs : List Int) (row : JobRow) : JobRow :=
  match epochs.max? with
  | none => row
  | some projected =>
      if row.currentEpoch.all fun stored => stored < projected then
        { row with currentEpoch := some projected }
      else row

def newRows (jobId : JobId) (batch : TelemetryBatch Entry) (checked : CheckedBatch Entry) :
    List Row :=
  checked.newEntries.map fun pair => kind.row jobId batch.attemptId pair.1

def storeBatch (ledger : Ledger) (jobId : JobId) (batch : TelemetryBatch Entry)
    (checked : CheckedBatch Entry) : Ledger :=
  { ledger with
    logs := ledger.logs ++ kind.asLogs (newRows kind jobId batch checked)
    metrics := ledger.metrics ++ kind.asMetrics (newRows kind jobId batch checked)
    jobs :=
      if checked.late then ledger.jobs
      else ledger.jobs.modify jobId (projectEpoch (checked.newEntries.filterMap Prod.snd))
    batches := ledger.batches ++
      [{ jobId := jobId
         attemptId := batch.attemptId
         batchType := kind.batchType
         idempotencyKey := batch.idempotencyKey
         payloadFingerprint := batchFingerprint platform kind batch
         itemCount := checked.newEntries.length }]
    outbox := (kind.outboxEvents jobId batch.attemptId batch.idempotencyKey).foldr
      (enqueue settings) ledger.outbox }

/-- The clock readings of the write, in the order in which it makes them. -/
structure WriteClock where
  fencedAt : Time
  lockedAt : Time
  /-- Read only when the commit has failed. -/
  racedAt : Time
deriving DecidableEq

def writeBatch (ledger : Ledger) (workerId : WorkerId) (jobId : JobId)
    (batch : TelemetryBatch Entry) (checked : CheckedBatch Entry) (clock : WriteClock) :
    Outcome OperationAck :=
  let claim := telemetryClaim kind workerId jobId batch
  let fenced : Except HttpError Unit :=
    if checked.late then .ok ()
    else acquireActiveTelemetryWriteFence platform ledger claim kind.watermark clock.fencedAt
      clock.lockedAt
  match fenced with
  | .error error => .error error
  | .ok () =>
      match findIngestBatch ledger batch.attemptId kind.batchType batch.idempotencyKey with
      | some raced =>
          match validateBatchReplay raced (batchFingerprint platform kind batch),
            lockTelemetryClaim platform ledger claim kind.watermark clock.racedAt with
          | .error error, _ => .error error
          | .ok _, .error error => .error error
          | .ok _, .ok _ => .ok ({ duplicate := true }, ledger)
      | none =>
          if kind.storable ledger (newRows kind jobId batch checked) then
            .ok ({ accepted := checked.newEntries.length },
              storeBatch platform settings kind ledger jobId batch checked)
          else reject 409 "telemetry ingest conflicted"

end

/-! ## What the two halves establish -/

section

variable {Entry Row : Type} {platform : Platform} {settings : Settings}
  {kind : TelemetryKind Entry Row} {ledger next : Ledger} {workerId : WorkerId} {jobId : JobId}
  {batch : TelemetryBatch Entry} {checked : CheckedBatch Entry}

structure Presents (ledger : Ledger) (claim : TelemetryClaim) (lease : LeaseRow)
    (attempt : AttemptRow) : Prop where
  leaseFound : ledger.leases.find? claim.leaseId = some lease
  leaseJob : lease.jobId = claim.jobId
  leaseAttempt : lease.attemptId = claim.attemptId
  leaseWorker : lease.workerId = claim.workerId
  attemptFound : ledger.attempts.find? claim.attemptId = some attempt
  attemptJob : attempt.jobId = claim.jobId
  attemptWorker : attempt.workerId = claim.workerId

structure Running (claim : TelemetryClaim) (lease : LeaseRow) (job : JobRow)
    (attempt : AttemptRow) (now : Time) : Prop where
  active : lease.active = true
  unreleased : lease.releasedAt = none
  unexpired : now < lease.expiresAt
  current : job.currentAttemptId = some claim.attemptId
  unfinished : attempt.finishedAt = none

/-- The attempt is over, and nothing in the batch is beyond its watermark. -/
structure Sealed (watermark : Nat × Nat → Nat) (claim : TelemetryClaim)
    (attempt : AttemptRow) : Prop where
  finished : attempt.finishedAt ≠ none
  below : ∃ counts, attempt.telemetryCounts = some counts ∧
    ∀ sequence ∈ claim.sequences, sequence < watermark counts

theorem lockTelemetryClaim_eq_ok {claim : TelemetryClaim} {watermark : Nat × Nat → Nat}
    {now : Time} {job : JobRow} {late : Bool}
    (accepted : lockTelemetryClaim platform ledger claim watermark now = .ok (job, late)) :
    ∃ lease attempt, Presents ledger claim lease attempt ∧
      ledger.jobs.find? claim.jobId = some job ∧
      (late = false → Running claim lease job attempt now) ∧
      (late = true → Sealed watermark claim attempt) := by
  unfold lockTelemetryClaim at accepted
  split at accepted
  · cases accepted
  · next lease leaseFound =>
      split at accepted
      · cases accepted
      · next parties =>
          split at accepted
          · cases accepted
          · next ofAttempt =>
              split at accepted
              · next row attempt worker jobFound attemptFound workerFound =>
                  simp only [not_or, not_not] at parties ofAttempt
                  split at accepted
                  · cases accepted
                  · next common =>
                      simp only [not_or, not_not] at common
                      have presents : Presents ledger claim lease attempt :=
                        ⟨leaseFound, parties.1, ofAttempt, parties.2, attemptFound, common.1,
                          common.2.1⟩
                      split at accepted
                      · cases accepted
                      · split at accepted
                        · next leaseOpen =>
                            split at accepted
                            · cases accepted
                            · next unexpired =>
                                split at accepted
                                · cases accepted
                                · next current =>
                                    cases accepted
                                    simp only [not_or, not_not] at current
                                    refine ⟨lease, attempt, presents, jobFound, ?_, nofun⟩
                                    intro _
                                    exact ⟨leaseOpen.1, leaseOpen.2, not_le.mp unexpired,
                                      current.2.1, current.2.2.2.1⟩
                        · split at accepted
                          · cases accepted
                          · next ended =>
                              split at accepted
                              · cases accepted
                              · next counts counted =>
                                  split at accepted
                                  · cases accepted
                                  · next within =>
                                      cases accepted
                                      simp only [not_or, not_not] at ended
                                      simp only [List.any_eq_true, decide_eq_true_eq, not_exists,
                                        not_and, not_le] at within
                                      refine ⟨lease, attempt, presents, jobFound, nofun, ?_⟩
                                      exact fun _ => ⟨ended.2.2.1, counts, counted, within⟩
              · cases accepted

theorem acquireActiveTelemetryWriteFence_eq_ok {claim : TelemetryClaim}
    {watermark : Nat × Nat → Nat} {fencedAt lockedAt : Time}
    (accepted : acquireActiveTelemetryWriteFence platform ledger claim watermark fencedAt lockedAt =
      .ok ()) :
    ∃ lease job attempt, Presents ledger claim lease attempt ∧
      ledger.jobs.find? claim.jobId = some job ∧ Running claim lease job attempt lockedAt := by
  unfold acquireActiveTelemetryWriteFence at accepted
  split at accepted
  · cases accepted
  · split at accepted
    · cases accepted
    · next job late locked =>
        split at accepted
        · cases accepted
        · next running =>
            rcases lockTelemetryClaim_eq_ok locked with
              ⟨lease, attempt, presents, found, active, -⟩
            simp only [not_or, Bool.not_eq_true] at running
            exact ⟨lease, job, attempt, presents, found, active running.1⟩

/-- What is new in a batch comes from it, with an epoch that fits the Job. -/
theorem checkBatch_eq_ok {now : Time}
    (accepted : checkBatch platform kind ledger workerId jobId batch now = .ok (some checked)) :
    ∃ job incoming,
      lockTelemetryClaim platform ledger (telemetryClaim kind workerId jobId batch) kind.watermark
        now = .ok (job, checked.late) ∧
      incomingEpochs kind job.totalEpoch batch.entries = .ok incoming ∧
      ∀ pair ∈ checked.newEntries, pair ∈ incoming := by
  unfold checkBatch at accepted
  split at accepted
  · cases accepted
  · next job late locked =>
      split at accepted
      · next replay _ =>
          cases replayed : validateBatchReplay replay (batchFingerprint platform kind batch) <;>
            simp [replayed, Except.map] at accepted
      · split at accepted
        · cases accepted
        · next incoming projected =>
            split at accepted
            · cases accepted
            · cases accepted
              exact ⟨job, incoming, locked, projected, fun pair member =>
                List.mem_of_mem_filter member⟩

theorem mem_incomingEpochs {totalEpoch : Int} {entries : List Entry}
    {incoming : List (Entry × Option Int)} {pair : Entry × Option Int}
    (projected : incomingEpochs kind totalEpoch entries = .ok incoming)
    (member : pair ∈ incoming) :
    pair.1 ∈ entries ∧ kind.entryEpoch pair.1 totalEpoch = .ok pair.2 := by
  induction entries generalizing incoming with
  | nil =>
      cases projected
      nomatch member
  | cons entry entries induction =>
      unfold incomingEpochs at projected
      split at projected
      · cases projected
      · next epoch reported =>
          cases rest : incomingEpochs kind totalEpoch entries with
          | error error =>
              rw [rest] at projected
              cases projected
          | ok others =>
              rw [rest] at projected
              cases projected
              rcases List.mem_cons.mp member with first | later
              · rw [first]
                exact ⟨List.mem_cons_self, reported⟩
              · rcases induction rest later with ⟨inEntries, itsEpoch⟩
                exact ⟨List.mem_cons_of_mem _ inEntries, itsEpoch⟩

/-- A write changes nothing, or stores the batch behind its fence. -/
theorem writeBatch_eq_ok {clock : WriteClock} {ack : OperationAck}
    (accepted : writeBatch platform settings kind ledger workerId jobId batch checked clock =
      .ok (ack, next)) :
    next = ledger ∨
      (checked.late = true ∨ acquireActiveTelemetryWriteFence platform ledger
        (telemetryClaim kind workerId jobId batch) kind.watermark clock.fencedAt clock.lockedAt =
          .ok ()) ∧
      kind.storable ledger (newRows kind jobId batch checked) = true ∧
      findIngestBatch ledger batch.attemptId kind.batchType batch.idempotencyKey = none ∧
      next = storeBatch platform settings kind ledger jobId batch checked := by
  unfold writeBatch at accepted
  simp only at accepted
  split at accepted
  · cases accepted
  · next fenced =>
      split at accepted
      · split at accepted
        · cases accepted
        · cases accepted
        · cases accepted
          exact .inl rfl
      · next unused =>
          split at accepted
          · next storable =>
              cases accepted
              refine .inr ⟨?_, storable, unused, rfl⟩
              cases late : checked.late with
              | true => exact .inl rfl
              | false =>
                  rw [late] at fenced
                  exact .inr fenced
          · cases accepted

/-- The assignment protocol does not see an ingest. -/
theorem writeBatch_view {workerId : WorkerId} {batch : TelemetryBatch Entry}
    {checked : CheckedBatch Entry} {clock : WriteClock} {ack : OperationAck}
    (accepted : writeBatch platform settings kind ledger workerId jobId batch checked clock =
      .ok (ack, next)) :
    next.view = ledger.view := by
  rcases writeBatch_eq_ok accepted with rfl | ⟨-, -, -, rfl⟩
  · rfl
  · have unseen : ∀ epochs row, Ledger.jobState (projectEpoch epochs row) = Ledger.jobState row := by
      intro epochs row
      unfold projectEpoch
      repeat' split
      all_goals rfl
    simp only [storeBatch, Ledger.view]
    split
    · rfl
    · rw [Table.map_modify_of_invisible Ledger.jobState _ _ fun row _ => unseen _ row]

end

/-! ## Ingests among other requests -/

inductive IngestPhase where
  | logs (workerId : WorkerId) (jobId : JobId) (batch : LogBatch) (checked : CheckedBatch LogEntry)
  | metrics (workerId : WorkerId) (jobId : JobId) (batch : MetricBatch)
      (checked : CheckedBatch MetricEntry)

inductive IngestRequest where
  | logs (workerId : WorkerId) (jobId : JobId) (batch : LogBatch) (now : Time)
  | metrics (workerId : WorkerId) (jobId : JobId) (batch : MetricBatch) (now : Time)

structure IngestChoice where
  clock : WriteClock
  ids : Nat → Nat

section

variable (platform : Platform) (settings : Settings) (text : TelemetryText)

/-- The first half of `ingest_logs` or `ingest_metrics`. No row is drawn yet, so the
identifiers do not matter. -/
def launchIngest (ledger : Ledger) : IngestRequest → Option IngestPhase
  | .logs workerId jobId batch now =>
      match checkBatch platform (logKind text id) ledger workerId jobId batch.toTelemetryBatch
        now with
      | .ok (some checked) => some (.logs workerId jobId batch checked)
      | _ => none
  | .metrics workerId jobId batch now =>
      match checkBatch platform (metricKind text) ledger workerId jobId batch.toTelemetryBatch
        now with
      | .ok (some checked) => some (.metrics workerId jobId batch checked)
      | _ => none

def commitIngest (ledger : Ledger) (choice : IngestChoice) : IngestPhase → Ledger
  | .logs workerId jobId batch checked =>
      committed ledger (writeBatch platform settings (logKind text choice.ids) ledger workerId
        jobId batch.toTelemetryBatch checked choice.clock)
  | .metrics workerId jobId batch checked =>
      committed ledger (writeBatch platform settings (metricKind text) ledger workerId jobId
        batch.toTelemetryBatch checked choice.clock)

def intake : Workforce Ledger IngestPhase IngestRequest IngestChoice Operation where
  launch request ledger :=
    (launchIngest platform text ledger request).map fun phase => (phase, ledger)
  advance choice phase ledger := (none, commitIngest platform settings text ledger choice phase)
  disturb operation ledger := some (perform platform settings ledger operation)

end

theorem commitIngest_view {platform : Platform} {settings : Settings} {text : TelemetryText}
    {ledger : Ledger} (choice : IngestChoice) (phase : IngestPhase) :
    (commitIngest platform settings text ledger choice phase).view = ledger.view := by
  have unchanged : ∀ {outcome : Outcome OperationAck},
      (∀ {ack next}, outcome = .ok (ack, next) → next.view = ledger.view) →
      (committed ledger outcome).view = ledger.view := by
    intro outcome accepted
    match outcome with
    | .ok (_, next) => exact accepted rfl
    | .error _ => rfl
  cases phase with
  | logs => exact unchanged fun accepted => writeBatch_view accepted
  | metrics => exact unchanged fun accepted => writeBatch_view accepted

end RvcOrchestrator.Manager

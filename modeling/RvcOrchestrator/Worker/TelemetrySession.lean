import RvcOrchestrator.Contracts.Status
import RvcOrchestrator.Worker.TelemetrySpool

/-! # The telemetry of an attempt

A session numbers the logs and metrics of one attempt and stores them in the spool. Whoever holds
its state lock stores the batches of one event; flushes go on in the meantime.
-/

namespace RvcOrchestrator.Worker

open RvcOrchestrator.Foundation RvcOrchestrator.Contracts

/-! ## Events -/

structure ParsedTrainingMetric where
  key : String
  value : PyFloat
  epoch : Option Nat
  step : Option Nat
deriving DecidableEq

structure TrainingEvent where
  source : String
  eventKey : String
  message : Option String
  metrics : List ParsedTrainingMetric
  channel : Option String

structure GpuSnapshot where
  index : Nat
  totalVramMb : Int
  freeVramMb : Int
  utilizationPercent : Option Int
  temperatureC : Option Int

structure SystemSnapshot where
  gpus : List GpuSnapshot
  diskFreeBytes : Int
  gpuTelemetryAvailable : Bool

/-- The texts that the standard library makes: `strip` with `lower`, the redaction of the session's
roots and of secrets, `float.hex` and `float` of an integer, which may be too large. -/
structure SessionText where
  normalized : String → String
  sanitized : String → String
  hex : PyFloat → String
  float : Int → Option PyFloat
  one : PyFloat
  zero : PyFloat

/-- `int` of a float, toward zero. -/
def truncated (value : PyFloat) : Int :=
  if value.negative then -⌊-value.value⌋ else ⌊value.value⌋

/-! ## The session -/

structure AttemptTelemetryWatermarks where
  logCount : Nat
  metricCount : Nat
deriving DecidableEq

structure AttemptTelemetrySession where
  jobId : String
  attemptId : String
  leaseId : String
  maxSourceEvents : Nat
  nextLogSequence : Nat
  nextMetricSequence : Nat
  systemSnapshotOrdinal : Nat
  sourceEventKeys : List String
  /-- Which sources have brought what, by its semantic key. -/
  logSources : List (String × String)
  metricSources : List (String × String)
  pendingEpoch : Option Int
  trainingActive : Bool
  terminalWatermarks : Option AttemptTelemetryWatermarks

/-- What the holder of the state lock still has to store, and what it then notes. -/
structure Recording where
  log : Option SpoolRecord
  metric : Option SpoolRecord
  pendingEpoch : Option Int
  systemSnapshotOrdinal : Nat

/-- The contract takes the batches. That of the metrics is built once the log is stored. -/
def Recording.accepted (recording : Recording) : Bool :=
  recording.metric.all fun metric => metric.sequences.length ≤ 1000

/-- The session of an event, which has taken note of it, and what is to be stored. -/
abbrev EventOutcome := AttemptTelemetrySession × Except String Recording

def normalizeSource (text : SessionText) (value : String) : Except String String :=
  let normalized := text.normalized value
  if normalized ∉ ["stdout", "train_log", "tensorboard"] then
    .error "unsupported training telemetry source"
  else .ok normalized

def sourceEventKey (source value : String) : Except String String :=
  if value = "" ∨ 4096 < value.utf8ByteSize then
    .error "training telemetry event key is invalid"
  else .ok (sha256Text (source ++ "\x00" ++ value))

def metricSemanticKey (text : SessionText) (metric : ParsedTrainingMetric) : String :=
  let number (value : Option Nat) : Json :=
    match value with
    | none => .null
    | some value => .int value
  sha256Text <| Json.dumps <| .object
    [("epoch", number metric.epoch), ("key", .str metric.key),
      ("step", number metric.step), ("value", .str (text.hex metric.value))]

def batchIdempotencyKey (kind : TelemetryKind) (attemptId : String) (eventKeys : List String) :
    String :=
  sha256Text ("\x1f".intercalate (kind.value :: attemptId :: eventKeys))

/-- What the contract asks of an entry's key. -/
def metricKeyAccepted (key : String) : Bool :=
  decide (key ≠ "" ∧ key.length ≤ 128) && key.toList.all isSafeIdChar

namespace AttemptTelemetrySession

def batch (session : AttemptTelemetrySession) (idempotencyKey : String) (entries : BatchEntries) :
    SpoolRecord where
  jobId := session.jobId
  leaseId := session.leaseId
  attemptId := session.attemptId
  idempotencyKey := idempotencyKey
  entries := entries

def logBatch (session : AttemptTelemetrySession) (eventKey : String) (entry : LogEntry) :
    SpoolRecord :=
  session.batch (batchIdempotencyKey .log session.attemptId [eventKey]) (.logs [entry])

def metricBatch (session : AttemptTelemetrySession) (eventKeys : List String)
    (entries : List MetricEntry) : SpoolRecord :=
  session.batch (batchIdempotencyKey .metric session.attemptId eventKeys) (.metrics entries)

/-! ## Training events -/

def seenSources (sources : List (String × String)) (semanticKey : String) : List String :=
  (sources.filter fun entry => entry.1 = semanticKey).map Prod.snd

/-- The log of an event, unless another source has brought the same message. -/
def collectLog (session : AttemptTelemetrySession) (source eventKey : String)
    (channel : Option String) (sanitizedMessage : Option String) (now : Int) :
    List (String × String) × Option LogEntry :=
  match sanitizedMessage with
  | none => (session.logSources, none)
  | some message =>
      if message = "" then (session.logSources, none)
      else
        let semanticKey := sha256Text message
        let seen := seenSources session.logSources semanticKey
        let entry : LogEntry :=
          { sequence := session.nextLogSequence
            level := if channel = some "stderr" then .error else .info
            message := message
            occurredAt := now
            fields := .object
              [("source", .str source), ("channel", .str ((channel.filter (· ≠ "")).getD source)),
                ("source_event_key", .str eventKey)] }
        ((semanticKey, source) :: session.logSources,
          if seen = [] ∨ source ∈ seen then some entry else none)

structure MetricCollection where
  sources : List (String × String)
  entries : List MetricEntry
  eventKeys : List String
  pendingEpoch : Option Int

def laterEpoch (pending : Option Int) (metric : ParsedTrainingMetric) : Option Int :=
  if metric.key = "current_epoch" ∨ metric.key = "epoch_completed" then
    let epoch : Int :=
      match metric.epoch with
      | some epoch => epoch
      | none => truncated metric.value
    if 0 ≤ epoch ∧ pending.all (fun pending => pending < epoch) then some epoch else pending
  else pending

/-- The loop over the metrics of an event, which stops at one the contract refuses. -/
def collectMetrics (text : SessionText) (session : AttemptTelemetrySession)
    (source eventKey : String) (now : Int) :
    Nat → MetricCollection → List ParsedTrainingMetric → MetricCollection × Bool
  | _, collection, [] => (collection, true)
  | position, collection, metric :: metrics =>
      let semanticKey := metricSemanticKey text metric
      let seen := seenSources collection.sources semanticKey
      let noted := { collection with sources := (semanticKey, source) :: collection.sources }
      if seen ≠ [] then
        collectMetrics text session source eventKey now (position + 1) noted metrics
      else if ¬metricKeyAccepted metric.key then (noted, false)
      else
        let entry : MetricEntry :=
          { sequence := session.nextMetricSequence + collection.entries.length
            key := metric.key
            value := metric.value
            epoch := metric.epoch
            step := metric.step
            occurredAt := now }
        collectMetrics text session source eventKey now (position + 1)
          { noted with
            entries := collection.entries ++ [entry]
            eventKeys := collection.eventKeys ++
              [eventKey ++ ":" ++ toString position ++ ":" ++ semanticKey]
            pendingEpoch := laterEpoch collection.pendingEpoch metric } metrics

def recordTrainingEvent (text : SessionText) (session : AttemptTelemetrySession)
    (event : TrainingEvent) (now : Int) : EventOutcome :=
  match normalizeSource text event.source with
  | .error error => (session, .error error)
  | .ok source =>
      match sourceEventKey source event.eventKey with
      | .error error => (session, .error error)
      | .ok eventKey =>
          let nothing : Recording :=
            ⟨none, none, session.pendingEpoch, session.systemSnapshotOrdinal⟩
          if session.terminalWatermarks.isSome then
            (session, .error "training telemetry arrived after terminal watermarks")
          else if ¬session.trainingActive then
            (session, .error "training telemetry arrived after the stage closed")
          else if eventKey ∈ session.sourceEventKeys then (session, .ok nothing)
          else if session.maxSourceEvents ≤ session.sourceEventKeys.length then
            (session, .error "training telemetry source event limit was exceeded")
          else
            let logged := session.collectLog source eventKey event.channel
              (event.message.map text.sanitized) now
            let collected := collectMetrics text session source eventKey now 0
              ⟨session.metricSources, [], [], session.pendingEpoch⟩ event.metrics
            let collection := collected.1
            let noted :=
              { session with
                sourceEventKeys := eventKey :: session.sourceEventKeys
                logSources := logged.1
                metricSources := collection.sources }
            if collected.2 = false then (noted, .error "metric entries are invalid")
            else
              (noted, .ok
                { nothing with
                  log := logged.2.map (session.logBatch eventKey)
                  metric :=
                    if collection.entries = [] then none
                    else some (session.metricBatch collection.eventKeys collection.entries)
                  pendingEpoch := collection.pendingEpoch })

/-! ## Stages and the system -/

def recordStageCompleted (text : SessionText) (session : AttemptTelemetrySession)
    (stage : JobStatus) (stageOrdinal : Nat) (createdPathCount : Nat) (now : Int) :
    EventOutcome :=
  let eventKey := "stage:" ++ toString stageOrdinal ++ ":" ++ stage.value
  let nothing : Recording := ⟨none, none, session.pendingEpoch, session.systemSnapshotOrdinal⟩
  if session.terminalWatermarks.isSome then
    (session, .error "stage telemetry arrived after terminal watermarks")
  else if eventKey ∈ session.sourceEventKeys then (session, .ok nothing)
  else if session.maxSourceEvents ≤ session.sourceEventKeys.length then
    (session, .error "attempt telemetry source event limit was exceeded")
  else
    let log : LogEntry :=
      { sequence := session.nextLogSequence
        level := .info
        message := "worker stage completed: " ++ stage.value
        occurredAt := now
        fields := .object
          [("stage", .str stage.value), ("created_path_count", .int createdPathCount)] }
    let metric : MetricEntry :=
      { sequence := session.nextMetricSequence
        key := "worker.stage_completed"
        value := text.one
        epoch := none
        step := none
        occurredAt := now }
    ({ session with sourceEventKeys := eventKey :: session.sourceEventKeys },
      .ok
        { nothing with
          log := some (session.logBatch eventKey log)
          metric := some (session.metricBatch [eventKey] [metric]) })

/-- The values of a snapshot, with `none` for one that is no finite float. -/
def systemValues (text : SessionText) (snapshot : SystemSnapshot) :
    List (String × Option PyFloat) :=
  let gpus := snapshot.gpus.mergeSort fun left right => left.index ≤ right.index
  [("system.gpu.count", text.float snapshot.gpus.length),
    ("system.gpu.telemetry_available",
      some (if snapshot.gpuTelemetryAvailable then text.one else text.zero)),
    ("system.disk_free_bytes", text.float snapshot.diskFreeBytes)] ++
    gpus.flatMap fun gpu =>
      let name := "system.gpu." ++ toString gpu.index
      let optional (suffix : String) (value : Option Int) : List (String × Option PyFloat) :=
        match value with
        | none => []
        | some value => [(name ++ suffix, text.float value)]
      [(name ++ ".vram_used_mb", text.float (gpu.totalVramMb - gpu.freeVramMb)),
        (name ++ ".vram_total_mb", text.float gpu.totalVramMb)] ++
        optional ".utilization_percent" gpu.utilizationPercent ++
        optional ".temperature_c" gpu.temperatureC

def systemEntries (session : AttemptTelemetrySession) (values : List (String × PyFloat))
    (now : Int) : List MetricEntry :=
  values.zipIdx.map fun value =>
    { sequence := session.nextMetricSequence + value.2
      key := value.1.1
      value := value.1.2
      epoch := none
      step := none
      occurredAt := now }

def recordSystemSnapshot (text : SessionText) (session : AttemptTelemetrySession)
    (snapshot : SystemSnapshot) (now : Int) : EventOutcome :=
  let nothing : Recording := ⟨none, none, session.pendingEpoch, session.systemSnapshotOrdinal⟩
  if ¬(snapshot.gpus.map GpuSnapshot.index).Nodup then
    (session, .error "system telemetry GPU indexes are not unique")
  else
    match (systemValues text snapshot).mapM fun value => value.2.map fun float => (value.1, float) with
    | none => (session, .error "system telemetry metric is not numeric")
    | some values =>
        if session.terminalWatermarks.isSome then (session, .ok nothing)
        else if session.maxSourceEvents ≤ session.systemSnapshotOrdinal then
          (session, .error "system telemetry snapshot limit was exceeded")
        else if 1000 < values.length then (session, .error "metric entries are invalid")
        else
          (session, .ok
            { nothing with
              metric := some <| session.metricBatch
                ["system:" ++ toString session.systemSnapshotOrdinal]
                (session.systemEntries values now)
              systemSnapshotOrdinal := session.systemSnapshotOrdinal + 1 })

/-! ## Closing -/

def finishTraining (session : AttemptTelemetrySession) : AttemptTelemetrySession :=
  { session with trainingActive := false }

def watermarks (session : AttemptTelemetrySession) : AttemptTelemetrySession :=
  if session.terminalWatermarks.isSome then session
  else
    { session with
      trainingActive := false
      terminalWatermarks := some ⟨session.nextLogSequence, session.nextMetricSequence⟩ }

end AttemptTelemetrySession

end RvcOrchestrator.Worker

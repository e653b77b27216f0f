import Mathlib.Data.List.Dedup
import RvcOrchestrator.Worker.TelemetryDelivery

/-! # Deduplication across sources

Standard output and the training log bring the same messages. A message that the one source has
brought is not logged when the other first brings it, but only that once: which sources have brought
a message is known, and not how often.
-/

namespace RvcOrchestrator.Worker

open RvcOrchestrator.Foundation

/-! ## Deliveries -/

structure Delivery where
  event : TrainingEvent
  now : Int

def MetricEntry.metric (entry : MetricEntry) : ParsedTrainingMetric where
  key := entry.key
  value := entry.value
  epoch := entry.epoch
  step := entry.step

namespace SpoolRecord

def messages (record : SpoolRecord) : List String :=
  match record.entries with
  | .logs entries => entries.map LogEntry.message
  | .metrics _ => []

def metrics (record : SpoolRecord) : List ParsedTrainingMetric :=
  match record.entries with
  | .logs _ => []
  | .metrics entries => entries.map MetricEntry.metric

end SpoolRecord

def Recording.records (recording : Recording) : List SpoolRecord :=
  recording.log.toList ++ recording.metric.toList

namespace AttemptTelemetrySession

def stored (session : AttemptTelemetrySession) (recording : Recording) :
    AttemptTelemetrySession :=
  let logged :=
    match recording.log with
    | none => session
    | some _ => { session with nextLogSequence := session.nextLogSequence + 1 }
  match recording.metric with
  | none => logged
  | some metric =>
      { logged with
        nextMetricSequence := logged.nextMetricSequence + metric.sequences.length
        pendingEpoch := recording.pendingEpoch
        systemSnapshotOrdinal := recording.systemSnapshotOrdinal }

end AttemptTelemetrySession

structure Transcript where
  session : AttemptTelemetrySession
  stored : List SpoolRecord

namespace Transcript

def messages (transcript : Transcript) : List String :=
  transcript.stored.flatMap SpoolRecord.messages

def metrics (transcript : Transcript) : List ParsedTrainingMetric :=
  transcript.stored.flatMap SpoolRecord.metrics

def deliver (text : SessionText) (transcript : Transcript) (delivery : Delivery) :
    Except String Transcript :=
  match transcript.session.recordTrainingEvent text delivery.event delivery.now with
  | (_, .error error) => .error error
  | (session, .ok recording) =>
      if recording.accepted then
        .ok ⟨session.stored recording, transcript.stored ++ recording.records⟩
      else .error "metric entries are invalid"

def deliverAll (text : SessionText) (transcript : Transcript) (deliveries : List Delivery) :
    Except String Transcript :=
  deliveries.foldlM (deliver text) transcript

def start (jobId attemptId leaseId : String) (maxSourceEvents : Nat) : Transcript where
  session := (TelemetryWorld.start jobId attemptId leaseId maxSourceEvents).session
  stored := []

end Transcript

/-- A delivery is what the holder of the state lock does when the spool takes its batches. -/
theorem stepTelemetry_deliver {settings : SpoolSettings} {text : SessionText}
    {world : TelemetryWorld} {event : TrainingEvent} {now : Int} {recording : Recording}
    {session : AttemptTelemetrySession} {spool : TelemetrySpool} (free : world.recording = none)
    (recorded : world.session.recordTrainingEvent text event now = (session, .ok recording))
    (accepted : recording.accepted = true)
    (enqueued : recording.records.foldlM (TelemetrySpool.enqueue settings) world.spool =
      .ok spool) :
    run (stepTelemetry settings text) world [.recordTrainingEvent event now, .write, .write] =
      { world with session := session.stored recording, recording := none, spool := spool } := by
  have taken : stepTelemetry settings text world (.recordTrainingEvent event now) =
      { world with session, recording := some recording } := by
    rw [stepTelemetry, TelemetryWorld.record, free]
    simp only
    rw [recorded]
  rw [run_cons, taken, run_cons, run_cons, run_nil]
  rcases recording with ⟨log, metric, pendingEpoch, ordinal⟩
  cases log with
  | none =>
      cases metric with
      | none =>
          cases enqueued
          rfl
      | some metric =>
          have written : world.spool.enqueue settings metric = .ok spool := by
            simpa [Recording.records] using enqueued
          simp [stepTelemetry, TelemetryWorld.write, written, accepted,
            AttemptTelemetrySession.stored]
  | some log =>
      cases logged : world.spool.enqueue settings log with
      | error error => simp [Recording.records, logged, bind, Except.bind] at enqueued
      | ok next =>
          cases metric with
          | none =>
              have same : next = spool := by
                simpa [Recording.records, logged, bind, Except.bind, pure, Except.pure]
                  using enqueued
              simp [stepTelemetry, TelemetryWorld.write, logged, same,
                AttemptTelemetrySession.stored]
          | some metric =>
              have written : next.enqueue settings metric = .ok spool := by
                simp only [Recording.records, Option.toList_some, List.singleton_append,
                  List.foldlM_cons, List.foldlM_nil, bind_pure, logged] at enqueued
                exact enqueued
              -- What the log leaves to be written has the same metrics.
              have remaining : Recording.accepted ⟨none, some metric, pendingEpoch, ordinal⟩ =
                  true := accepted
              simp [stepTelemetry, TelemetryWorld.write, logged, written, remaining,
                AttemptTelemetrySession.stored]

/-- The steps of a delivery, with a write for each batch it may have. -/
def Delivery.steps (delivery : Delivery) : List TelemetryStep :=
  [.recordTrainingEvent delivery.event delivery.now, .write, .write]

/-- A list of deliveries is a run of the telemetry that nothing interrupts: it stores the same
batches and leaves the same session. -/
theorem run_deliveries {settings : SpoolSettings} {text : SessionText} {world : TelemetryWorld}
    {deliveries : List Delivery} {old : List SpoolRecord} {transcript : Transcript}
    (free : world.recording = none)
    (delivered : Transcript.deliverAll text ⟨world.session, old⟩ deliveries = .ok transcript) :
    ∃ new, transcript.stored = old ++ new ∧ ∀ spool,
      new.foldlM (TelemetrySpool.enqueue settings) world.spool = .ok spool →
        run (stepTelemetry settings text) world (deliveries.flatMap Delivery.steps) =
          { world with session := transcript.session, recording := none, spool := spool } := by
  induction deliveries generalizing world old with
  | nil =>
      cases delivered
      refine ⟨[], (List.append_nil old).symm, fun spool enqueued => ?_⟩
      cases enqueued
      rw [← free]
      rfl
  | cons delivery deliveries induction =>
      rw [Transcript.deliverAll, List.foldlM_cons] at delivered
      rcases recorded : world.session.recordTrainingEvent text delivery.event delivery.now with
        ⟨session, error | recording⟩
      · rw [Transcript.deliver, recorded] at delivered
        cases delivered
      · rw [Transcript.deliver, recorded] at delivered
        simp only at delivered
        by_cases accepted : recording.accepted = true
        swap
        · rw [if_neg accepted] at delivered
          cases delivered
        rw [if_pos accepted] at delivered
        -- The batches are the same whatever the spool holds.
        rcases @induction { world with session := session.stored recording } _ free delivered with
          ⟨new, stored, -⟩
        refine ⟨recording.records ++ new, by rw [stored, List.append_assoc], ?_⟩
        intro spool enqueued
        rw [List.foldlM_append] at enqueued
        cases first : recording.records.foldlM (TelemetrySpool.enqueue settings) world.spool with
        | error error =>
            rw [first] at enqueued
            cases enqueued
        | ok next =>
            rw [first] at enqueued
            rw [List.flatMap_cons, run_append, Delivery.steps,
              stepTelemetry_deliver free recorded accepted first]
            rcases @induction { world with
                session := session.stored recording, recording := none, spool := next } _ rfl
              delivered with ⟨same, again, runs⟩
            rw [stored, List.append_right_inj] at again
            exact runs spool (again ▸ enqueued)

/-! ## What a delivery adds -/

open AttemptTelemetrySession

namespace Delivery

def source (text : SessionText) (delivery : Delivery) : String :=
  text.normalized delivery.event.source

/-- The text whose digest is the key of the event. -/
def keyText (text : SessionText) (delivery : Delivery) : String :=
  delivery.source text ++ "\x00" ++ delivery.event.eventKey

def message (text : SessionText) (delivery : Delivery) : Option String :=
  delivery.event.message.map text.sanitized

end Delivery

/-- The text whose digest is the semantic key of a metric. -/
def metricDocument (text : SessionText) (metric : ParsedTrainingMetric) : String :=
  let number (value : Option Nat) : Json :=
    match value with
    | none => .null
    | some value => .int value
  Json.dumps <| .object
    [("epoch", number metric.epoch), ("key", .str metric.key),
      ("step", number metric.step), ("value", .str (text.hex metric.value))]

/-- What the parsers and the log readers make sure of. -/
structure Acceptable (text : SessionText) (delivery : Delivery) : Prop where
  source : delivery.source text ∈ ["stdout", "train_log", "tensorboard"]
  spoken : delivery.event.message ≠ none →
    delivery.source text = "stdout" ∨ delivery.source text = "train_log"
  eventKey : delivery.event.eventKey ≠ "" ∧ delivery.event.eventKey.utf8ByteSize ≤ 4096
  few : delivery.event.metrics.length ≤ 1000
  metrics : ∀ metric ∈ delivery.event.metrics, metricKeyAccepted metric.key = true

def Delivery.logged (text : SessionText) (session : AttemptTelemetrySession)
    (delivery : Delivery) : List (String × String) × Option LogEntry :=
  session.collectLog (delivery.source text) (sha256Text (delivery.keyText text))
    delivery.event.channel (delivery.message text) delivery.now

def Delivery.collected (text : SessionText) (session : AttemptTelemetrySession)
    (delivery : Delivery) : MetricCollection × Bool :=
  collectMetrics text session (delivery.source text)
    (sha256Text (delivery.keyText text)) delivery.now 0
    ⟨session.metricSources, [], [], session.pendingEpoch⟩ delivery.event.metrics

structure Adds (text : SessionText) (before : Transcript) (delivery : Delivery)
    (after : Transcript) : Prop where
  sourceEventKeys : after.session.sourceEventKeys =
    sha256Text (delivery.keyText text) :: before.session.sourceEventKeys
  maxSourceEvents : after.session.maxSourceEvents = before.session.maxSourceEvents
  terminalWatermarks : after.session.terminalWatermarks = before.session.terminalWatermarks
  trainingActive : after.session.trainingActive = before.session.trainingActive
  logSources : after.session.logSources = (delivery.logged text before.session).1
  metricSources : after.session.metricSources = (delivery.collected text before.session).1.sources
  messages : after.messages =
    before.messages ++ ((delivery.logged text before.session).2.map LogEntry.message).toList
  metrics : after.metrics =
    before.metrics ++ (delivery.collected text before.session).1.entries.map MetricEntry.metric

theorem collectMetrics_accepted (text : SessionText) (session : AttemptTelemetrySession)
    (source eventKey : String) (now : Int) (metrics : List ParsedTrainingMetric)
    (accepted : ∀ metric ∈ metrics, metricKeyAccepted metric.key = true) (position : Nat)
    (collection : MetricCollection) :
    let collected := collectMetrics text session source eventKey now position collection metrics
    collected.2 = true ∧
      collected.1.entries.length ≤ collection.entries.length + metrics.length := by
  induction metrics generalizing position collection with
  | nil => exact ⟨rfl, le_rfl⟩
  | cons metric metrics induction =>
      have later := induction fun other member => accepted other (List.mem_cons_of_mem metric member)
      rw [collectMetrics]
      simp only
      split
      · rcases later (position + 1) _ with ⟨finished, bounded⟩
        apply And.intro finished
        apply bounded.trans
        simp
      · split
        · next refused => exact absurd (accepted metric List.mem_cons_self) refused
        · rcases later (position + 1) _ with ⟨finished, bounded⟩
          apply And.intro finished
          apply bounded.trans
          simp
          omega

theorem normalizeSource_acceptable {text : SessionText} {delivery : Delivery}
    (acceptable : Acceptable text delivery) :
    normalizeSource text delivery.event.source = .ok (delivery.source text) := by
  have known : ¬text.normalized delivery.event.source ∉ ["stdout", "train_log", "tensorboard"] :=
    not_not_intro acceptable.source
  rw [normalizeSource, if_neg known]
  rfl

theorem sourceEventKey_acceptable {text : SessionText} {delivery : Delivery}
    (acceptable : Acceptable text delivery) :
    sourceEventKey (delivery.source text) delivery.event.eventKey =
      .ok (sha256Text (delivery.keyText text)) := by
  have short : ¬(delivery.event.eventKey = "" ∨ 4096 < delivery.event.eventKey.utf8ByteSize) := by
    rintro (empty | long)
    · exact acceptable.eventKey.1 empty
    · exact acceptable.eventKey.2.not_gt long
  rw [sourceEventKey, if_neg short]
  rfl

def Delivery.noted (text : SessionText) (session : AttemptTelemetrySession)
    (delivery : Delivery) : AttemptTelemetrySession :=
  { session with
    sourceEventKeys := sha256Text (delivery.keyText text) :: session.sourceEventKeys
    logSources := (delivery.logged text session).1
    metricSources := (delivery.collected text session).1.sources }

def Delivery.recording (text : SessionText) (session : AttemptTelemetrySession)
    (delivery : Delivery) : Recording where
  log := (delivery.logged text session).2.map
    (session.logBatch (sha256Text (delivery.keyText text)))
  metric :=
    if (delivery.collected text session).1.entries = [] then none
    else
      some (session.metricBatch (delivery.collected text session).1.eventKeys
        (delivery.collected text session).1.entries)
  pendingEpoch := (delivery.collected text session).1.pendingEpoch
  systemSnapshotOrdinal := session.systemSnapshotOrdinal

/-- A session that still records takes an acceptable event with a new key. -/
theorem recordTrainingEvent_acceptable {text : SessionText} {session : AttemptTelemetrySession}
    {delivery : Delivery} (acceptable : Acceptable text delivery)
    (unsealed : session.terminalWatermarks = none) (active : session.trainingActive = true)
    (fresh : sha256Text (delivery.keyText text) ∉ session.sourceEventKeys)
    (room : session.sourceEventKeys.length < session.maxSourceEvents) :
    session.recordTrainingEvent text delivery.event delivery.now =
      (delivery.noted text session, .ok (delivery.recording text session)) := by
  have collected := collectMetrics_accepted text session (delivery.source text)
    (sha256Text (delivery.keyText text)) delivery.now delivery.event.metrics acceptable.metrics 0
    ⟨session.metricSources, [], [], session.pendingEpoch⟩
  have finished : ¬(delivery.collected text session).2 = false := fun stopped =>
    Bool.false_ne_true (stopped.symm.trans collected.1)
  rw [recordTrainingEvent, normalizeSource_acceptable acceptable]
  simp only
  rw [sourceEventKey_acceptable acceptable]
  simp only
  rw [if_neg (by rw [unsealed]; exact Bool.false_ne_true), if_neg (not_not_intro active),
    if_neg fresh, if_neg room.not_ge]
  exact if_neg finished

/-- The contract takes the batches of an acceptable event. -/
theorem recording_accepted {text : SessionText} {delivery : Delivery}
    (acceptable : Acceptable text delivery) (session : AttemptTelemetrySession) :
    (delivery.recording text session).accepted = true := by
  have collected : (delivery.collected text session).1.entries.length ≤
      0 + delivery.event.metrics.length :=
    (collectMetrics_accepted text session (delivery.source text)
      (sha256Text (delivery.keyText text)) delivery.now delivery.event.metrics acceptable.metrics 0
      ⟨session.metricSources, [], [], session.pendingEpoch⟩).2
  have few : (delivery.collected text session).1.entries.length ≤ 1000 := by
    have few := acceptable.few
    omega
  rw [Recording.accepted, Delivery.recording]
  split
  · rfl
  · have sized : (session.metricBatch (delivery.collected text session).1.eventKeys
        (delivery.collected text session).1.entries).sequences.length =
          (delivery.collected text session).1.entries.length := List.length_map _
    rw [Option.all_some, sized]
    exact decide_eq_true few

section

variable (text : SessionText) (session : AttemptTelemetrySession) (delivery : Delivery)

theorem messages_recording :
    (delivery.recording text session).records.flatMap SpoolRecord.messages =
      ((delivery.logged text session).2.map LogEntry.message).toList := by
  rw [Recording.records, Delivery.recording, List.flatMap_append]
  have silent : (if (delivery.collected text session).1.entries = [] then none
      else some (session.metricBatch (delivery.collected text session).1.eventKeys
        (delivery.collected text session).1.entries)).toList.flatMap SpoolRecord.messages = [] := by
    split <;> rfl
  rw [silent, List.append_nil]
  cases (delivery.logged text session).2 <;> rfl

theorem metrics_recording :
    (delivery.recording text session).records.flatMap SpoolRecord.metrics =
      (delivery.collected text session).1.entries.map MetricEntry.metric := by
  rw [Recording.records, Delivery.recording, List.flatMap_append]
  have silent : ((delivery.logged text session).2.map
      (session.logBatch (sha256Text (delivery.keyText text)))).toList.flatMap
        SpoolRecord.metrics = [] := by
    cases (delivery.logged text session).2 <;> rfl
  rw [silent, List.nil_append]
  split
  · next empty =>
      rw [empty]
      rfl
  · exact List.append_nil _

end

/-- Storing a recording changes the numbers of the session only. -/
theorem stored_sources (session : AttemptTelemetrySession) (recording : Recording) :
    (session.stored recording).sourceEventKeys = session.sourceEventKeys ∧
      (session.stored recording).maxSourceEvents = session.maxSourceEvents ∧
      (session.stored recording).terminalWatermarks = session.terminalWatermarks ∧
      (session.stored recording).trainingActive = session.trainingActive ∧
      (session.stored recording).logSources = session.logSources ∧
      (session.stored recording).metricSources = session.metricSources := by
  unfold AttemptTelemetrySession.stored
  cases recording.log <;> cases recording.metric <;> exact ⟨rfl, rfl, rfl, rfl, rfl, rfl⟩

theorem deliver_adds {text : SessionText} {transcript : Transcript} {delivery : Delivery}
    (acceptable : Acceptable text delivery)
    (unsealed : transcript.session.terminalWatermarks = none)
    (active : transcript.session.trainingActive = true)
    (fresh : sha256Text (delivery.keyText text) ∉ transcript.session.sourceEventKeys)
    (room : transcript.session.sourceEventKeys.length < transcript.session.maxSourceEvents) :
    ∃ after, transcript.deliver text delivery = .ok after ∧
      Adds text transcript delivery after := by
  rw [Transcript.deliver,
    recordTrainingEvent_acceptable acceptable unsealed active fresh room]
  simp only
  rw [if_pos (recording_accepted acceptable transcript.session)]
  rcases stored_sources (delivery.noted text transcript.session)
    (delivery.recording text transcript.session) with
    ⟨keys, limit, watermarks, running, logSources, metricSources⟩
  refine ⟨_, rfl, keys, limit, watermarks, running, logSources, metricSources, ?_, ?_⟩
  · rw [Transcript.messages, List.flatMap_append, messages_recording]
    rfl
  · rw [Transcript.metrics, List.flatMap_append, metrics_recording]
    rfl

/-! ## Metrics -/

theorem seenSources_cons (sources : List (String × String)) (semanticKey source other : String) :
    seenSources ((semanticKey, source) :: sources) other =
      if semanticKey = other then source :: seenSources sources other
      else seenSources sources other := by
  unfold seenSources
  by_cases same : semanticKey = other
  · rw [List.filter_cons_of_pos (by simpa using same), if_pos same, List.map_cons]
  · rw [List.filter_cons_of_neg (by simpa using same), if_neg same]

theorem metricDocument_injective {text : SessionText} (exactly : Function.Injective text.hex) :
    Function.Injective (metricDocument text) := by
  intro metric other same
  rcases metric with ⟨key, value, epoch, step⟩
  rcases other with ⟨otherKey, otherValue, otherEpoch, otherStep⟩
  have sorted := Json.dumps_eq_iff.mp same
  have number : ∀ {first second : Option Nat}, Json.sortKeys (match first with
      | none => .null
      | some value => .int value) = Json.sortKeys (match second with
      | none => .null
      | some value => .int value) → first = second := by
    intro first second equal
    cases first <;> cases second <;> simp [Json.sortKeys] at equal ⊢
    exact equal
  simp [Json.sortKeys, Json.sortFields] at sorted
  rcases sorted with ⟨sameEpoch, sameKey, sameStep, sameValue⟩
  rw [number sameEpoch, sameKey, number sameStep, exactly sameValue]

/-- The metrics that have been recorded are those that have been delivered, each once. -/
structure MetricsRecorded (text : SessionText) (all delivered : List ParsedTrainingMetric)
    (sources : List (String × String)) (recorded : List ParsedTrainingMetric) : Prop where
  seen : ∀ metric ∈ all,
    seenSources sources (metricSemanticKey text metric) ≠ [] ↔ metric ∈ delivered
  nodup : recorded.Nodup
  members : ∀ metric, metric ∈ recorded ↔ metric ∈ delivered

section

variable {text : SessionText} {all delivered : List ParsedTrainingMetric}
  {sources : List (String × String)} {recorded : List ParsedTrainingMetric}
  (distinct : ∀ metric ∈ all, ∀ other ∈ all,
    metricSemanticKey text metric = metricSemanticKey text other → metric = other)

include distinct

theorem MetricsRecorded.noted (fits : MetricsRecorded text all delivered sources recorded)
    {metric : ParsedTrainingMetric} (known : metric ∈ all) (source : String) :
    ∀ other ∈ all, seenSources ((metricSemanticKey text metric, source) :: sources)
      (metricSemanticKey text other) ≠ [] ↔ other ∈ delivered ++ [metric] := by
  intro other member
  rw [seenSources_cons, List.mem_append, List.mem_singleton, ← fits.seen other member]
  by_cases same : metricSemanticKey text metric = metricSemanticKey text other
  · have equal := distinct metric known other member same
    rw [if_pos same]
    simp [equal]
  · have different : other ≠ metric := fun equal => same (by rw [equal])
    rw [if_neg same]
    simp [different]

theorem MetricsRecorded.again (fits : MetricsRecorded text all delivered sources recorded)
    {metric : ParsedTrainingMetric} (known : metric ∈ all) (source : String)
    (before : metric ∈ delivered) :
    MetricsRecorded text all (delivered ++ [metric])
      ((metricSemanticKey text metric, source) :: sources) recorded where
  seen := fits.noted distinct known source
  nodup := fits.nodup
  members := by
    intro other
    rw [fits.members other, List.mem_append, List.mem_singleton]
    constructor
    · exact Or.inl
    · rintro (old | rfl)
      · exact old
      · exact before

theorem MetricsRecorded.first (fits : MetricsRecorded text all delivered sources recorded)
    {metric : ParsedTrainingMetric} (known : metric ∈ all) (source : String)
    (new : metric ∉ delivered) :
    MetricsRecorded text all (delivered ++ [metric])
      ((metricSemanticKey text metric, source) :: sources) (recorded ++ [metric]) where
  seen := fits.noted distinct known source
  nodup := by
    rw [← List.concat_eq_append]
    apply fits.nodup.concat
    rw [fits.members]
    exact new
  members := by
    intro other
    rw [List.mem_append, List.mem_append, fits.members other]

/-- The loop over the metrics of an event. -/
theorem collectMetrics_recorded (session : AttemptTelemetrySession) (source eventKey : String)
    (now : Int) (earlier metrics : List ParsedTrainingMetric) (known : ∀ metric ∈ metrics, metric ∈ all)
    (accepted : ∀ metric ∈ metrics, metricKeyAccepted metric.key = true) (position : Nat)
    {collection : MetricCollection}
    (fits : MetricsRecorded text all delivered collection.sources
      (earlier ++ collection.entries.map MetricEntry.metric)) :
    let collected :=
      (collectMetrics text session source eventKey now position collection metrics).1
    MetricsRecorded text all (delivered ++ metrics) collected.sources
      (earlier ++ collected.entries.map MetricEntry.metric) := by
  induction metrics generalizing position collection delivered with
  | nil =>
      rw [List.append_nil]
      exact fits
  | cons metric metrics induction =>
      have member := known metric List.mem_cons_self
      have later := @induction (delivered ++ [metric])
        (fun other member => known other (List.mem_cons_of_mem metric member))
        (fun other member => accepted other (List.mem_cons_of_mem metric member))
      have shape : delivered ++ metric :: metrics = delivered ++ [metric] ++ metrics :=
        List.append_cons delivered metric metrics
      rw [collectMetrics, shape]
      simp only
      split
      · next seen =>
          have before := (fits.seen metric member).mp seen
          apply later (position + 1)
          exact fits.again distinct member source before
      · next unseen =>
          have new : metric ∉ delivered := fun before => unseen ((fits.seen metric member).mpr before)
          split
          · next refused => exact absurd (accepted metric List.mem_cons_self) refused
          · apply later (position + 1)
            rw [List.map_append, ← List.append_assoc]
            exact fits.first distinct member source new

end

/-! ## Messages -/

def broughtBy (text : SessionText) (source : String) (deliveries : List Delivery) : List String :=
  (deliveries.filter fun delivery => delivery.source text = source).filterMap fun delivery =>
    delivery.event.message

/-- The messages that a source brings, as they are logged. -/
def streamOf (text : SessionText) (source : String) (deliveries : List Delivery) : List String :=
  (broughtBy text source deliveries).map text.sanitized

theorem streamOf_append (text : SessionText) (source : String) (delivered : List Delivery)
    (delivery : Delivery) :
    streamOf text source (delivered ++ [delivery]) =
      streamOf text source delivered ++
        (if delivery.source text = source then (delivery.message text).toList else []) := by
  rw [streamOf, streamOf, broughtBy, broughtBy, List.filter_append, List.filterMap_append,
    List.map_append]
  by_cases own : delivery.source text = source
  · rw [List.filter_cons_of_pos (by simpa using own), if_pos own, Delivery.message]
    cases message : delivery.event.message <;> simp [message]
  · rw [List.filter_cons_of_neg (by simpa using own), if_neg own]
    rfl

/-- How often a message is logged that one source has brought `first` times and the other `second`
times: whoever comes second is not heard at first. -/
def timesLogged (first second : Nat) : Nat :=
  first + second - if 0 < first ∧ 0 < second then 1 else 0

theorem timesLogged_comm (first second : Nat) :
    timesLogged first second = timesLogged second first := by
  unfold timesLogged
  split_ifs <;> omega

theorem timesLogged_succ (first second : Nat) :
    timesLogged (first + 1) second =
      timesLogged first second + if first = 0 ∧ 0 < second then 0 else 1 := by
  unfold timesLogged
  split_ifs <;> omega

theorem timesLogged_either {own other : String}
    (either : (own = "stdout" ∧ other = "train_log") ∨ (own = "train_log" ∧ other = "stdout"))
    (times : String → Nat) :
    timesLogged (times "stdout") (times "train_log") = timesLogged (times own) (times other) := by
  rcases either with ⟨rfl, rfl⟩ | ⟨rfl, rfl⟩
  · rfl
  · exact timesLogged_comm _ _

theorem timesLogged_self_eq_self {times : Nat} : timesLogged times times = times ↔ times ≤ 1 := by
  unfold timesLogged
  split_ifs <;> omega

/-- What is known of the messages once some deliveries have been made. -/
structure MessagesLogged (text : SessionText) (all : List String) (delivered : List Delivery)
    (sources : List (String × String)) (logged : List String) : Prop where
  two : ∀ entry ∈ sources, entry.2 = "stdout" ∨ entry.2 = "train_log"
  heard : ∀ message ∈ all, message ≠ "" → ∀ source,
    source ∈ seenSources sources (sha256Text message) ↔ message ∈ streamOf text source delivered
  counts : ∀ message, logged.count message =
    if message = "" then 0
    else timesLogged ((streamOf text "stdout" delivered).count message)
      ((streamOf text "train_log" delivered).count message)

section

variable {text : SessionText} {all : List String} {delivered : List Delivery}
  {sources : List (String × String)} {logged : List String}

/-- An event without a message, or with an empty one, changes nothing. -/
theorem MessagesLogged.silent (fits : MessagesLogged text all delivered sources logged)
    {delivery : Delivery} (silent : ∀ message, delivery.message text = some message → message = "") :
    MessagesLogged text all (delivered ++ [delivery]) sources logged := by
  have same : ∀ source message, message ≠ "" →
      (streamOf text source (delivered ++ [delivery])).count message =
        (streamOf text source delivered).count message := by
    intro source message spoken
    rw [streamOf_append, List.count_append, Nat.add_eq_left]
    apply List.count_eq_zero_of_not_mem
    intro member
    split at member
    · exact spoken (silent message (Option.mem_toList.mp member))
    · cases member
  constructor
  · exact fits.two
  · intro message known spoken source
    rw [fits.heard message known spoken source, ← List.count_pos_iff, ← List.count_pos_iff,
      same source message spoken]
  · intro message
    rw [fits.counts message]
    by_cases empty : message = ""
    · rw [if_pos empty, if_pos empty]
    · rw [if_neg empty, if_neg empty, same _ message empty, same _ message empty]

/-- Who is heard: who comes first, or has been heard before. -/
theorem MessagesLogged.taken (fits : MessagesLogged text all delivered sources logged)
    {message own other : String} (known : message ∈ all) (spoken : message ≠ "")
    (either : (own = "stdout" ∧ other = "train_log") ∨ (own = "train_log" ∧ other = "stdout")) :
    (seenSources sources (sha256Text message) = [] ∨
        own ∈ seenSources sources (sha256Text message)) ↔
      ¬((streamOf text own delivered).count message = 0 ∧
        0 < (streamOf text other delivered).count message) := by
  have heard := fits.heard message known spoken
  have counted : ∀ source, source ∈ seenSources sources (sha256Text message) ↔
      0 < (streamOf text source delivered).count message := by
    intro source
    rw [heard, List.count_pos_iff]
  have pair : ∀ source ∈ seenSources sources (sha256Text message), source = own ∨ source = other := by
    intro source member
    rcases List.mem_map.mp member with ⟨entry, kept, rfl⟩
    have two := fits.two entry (List.mem_of_mem_filter kept)
    rcases either with ⟨rfl, rfl⟩ | ⟨rfl, rfl⟩
    · exact two
    · exact two.symm
  rw [counted own, ← counted other]
  constructor
  · rintro (none | before) ⟨notOwn, byOther⟩
    · rw [none] at byOther
      cases byOther
    · omega
  · intro notOvertaken
    by_cases before : 0 < (streamOf text own delivered).count message
    · exact Or.inr before
    · apply Or.inl
      apply List.eq_nil_iff_forall_not_mem.mpr
      intro source member
      rcases pair source member with rfl | rfl
      · exact before ((counted _).mp member)
      · exact notOvertaken ⟨by omega, member⟩

theorem MessagesLogged.spoken (fits : MessagesLogged text all delivered sources logged)
    {delivery : Delivery} {message own other : String} (known : message ∈ all)
    (spoken : message ≠ "") (brought : delivery.message text = some message)
    (source : delivery.source text = own)
    (either : (own = "stdout" ∧ other = "train_log") ∨ (own = "train_log" ∧ other = "stdout"))
    (distinct : ∀ first ∈ all, ∀ second ∈ all,
      sha256Text first = sha256Text second → first = second) :
    MessagesLogged text all (delivered ++ [delivery])
      ((sha256Text message, own) :: sources)
      (logged ++
        if seenSources sources (sha256Text message) = [] ∨
          own ∈ seenSources sources (sha256Text message) then [message] else []) := by
  have different : own ≠ other := by
    rcases either with ⟨rfl, rfl⟩ | ⟨rfl, rfl⟩ <;> decide
  have ownStream : streamOf text own (delivered ++ [delivery]) =
      streamOf text own delivered ++ [message] := by
    rw [streamOf_append, if_pos source, brought]
    rfl
  have otherStream : ∀ quiet, quiet ≠ own → streamOf text quiet (delivered ++ [delivery]) =
      streamOf text quiet delivered := by
    intro quiet silent
    rw [streamOf_append, source, if_neg silent.symm, List.append_nil]
  constructor
  · intro entry member
    rcases List.mem_cons.mp member with rfl | old
    · rcases either with ⟨rfl, rfl⟩ | ⟨rfl, rfl⟩
      · exact Or.inl rfl
      · exact Or.inr rfl
    · exact fits.two entry old
  · intro heard member notEmpty speaker
    rw [seenSources_cons]
    by_cases same : sha256Text message = sha256Text heard
    · rcases distinct message known heard member same with rfl
      rw [if_pos rfl, List.mem_cons, fits.heard message known spoken speaker]
      by_cases itself : speaker = own
      · rw [itself, ownStream]
        simp
      · rw [otherStream speaker itself]
        simp [itself]
    · have unequal : heard ≠ message := fun equal => same (by rw [equal])
      rw [if_neg same, fits.heard heard member notEmpty speaker]
      by_cases itself : speaker = own
      · rw [itself, ownStream]
        simp [unequal]
      · rw [otherStream speaker itself]
  · intro counted
    have before := fits.counts counted
    by_cases empty : counted = ""
    · rw [if_pos empty] at before ⊢
      rw [List.count_append, before, Nat.zero_add]
      apply List.count_eq_zero_of_not_mem
      intro member
      split at member
      · exact spoken ((List.mem_singleton.mp member).symm.trans empty)
      · cases member
    · rw [if_neg empty] at before ⊢
      rw [timesLogged_either either fun source => (streamOf text source delivered).count counted]
        at before
      rw [timesLogged_either either fun source =>
        (streamOf text source (delivered ++ [delivery])).count counted]
      rw [ownStream, otherStream other different.symm, List.count_append, List.count_append, before]
      by_cases same : counted = message
      · rw [same, List.count_singleton_self, timesLogged_succ, Nat.add_right_inj]
        by_cases taken : seenSources sources (sha256Text message) = [] ∨
            own ∈ seenSources sources (sha256Text message)
        · rw [if_pos taken, List.count_singleton_self,
            if_neg ((fits.taken known spoken either).mp taken)]
        · rw [if_neg taken, List.count_nil,
            if_pos (not_not.mp fun heard => taken ((fits.taken known spoken either).mpr heard))]
      · have absent : [message].count counted = 0 :=
          List.count_eq_zero_of_not_mem fun member => same (List.mem_singleton.mp member)
        rw [absent, Nat.add_zero, Nat.add_eq_left]
        split
        · exact absent
        · rfl

end

theorem logged_silent {text : SessionText} {session : AttemptTelemetrySession}
    {delivery : Delivery} (silent : ∀ message, delivery.message text = some message → message = "") :
    delivery.logged text session = (session.logSources, none) := by
  unfold Delivery.logged collectLog
  cases brought : delivery.message text with
  | none => rfl
  | some message => exact if_pos (silent message brought)

theorem logged_spoken {text : SessionText} {session : AttemptTelemetrySession}
    {delivery : Delivery} {message : String} (brought : delivery.message text = some message)
    (spoken : message ≠ "") :
    (delivery.logged text session).1 =
        (sha256Text message, delivery.source text) :: session.logSources ∧
      ((delivery.logged text session).2.map LogEntry.message).toList =
        if seenSources session.logSources (sha256Text message) = [] ∨
          delivery.source text ∈ seenSources session.logSources (sha256Text message)
        then [message] else [] := by
  unfold Delivery.logged collectLog
  rw [brought]
  simp only
  rw [if_neg spoken]
  apply And.intro rfl
  split <;> rfl

/-! ## Runs -/

def Delivery.hashed (text : SessionText) (delivery : Delivery) : List String :=
  delivery.keyText text :: (delivery.message text).toList ++
    delivery.event.metrics.map (metricDocument text)

/-- Standard output and the training log bring the same messages, each delivery has a key of its
own, the limit is not reached and no digests collide. -/
structure Deliverable (text : SessionText) (maxSourceEvents : Nat)
    (deliveries : List Delivery) : Prop where
  acceptable : ∀ delivery ∈ deliveries, Acceptable text delivery
  sameMessages : (broughtBy text "stdout" deliveries).Perm (broughtBy text "train_log" deliveries)
  ownKeys : (deliveries.map fun delivery =>
    (delivery.source text, delivery.event.eventKey)).Nodup
  room : deliveries.length ≤ maxSourceEvents
  collisionFree : ∀ first ∈ deliveries.flatMap (Delivery.hashed text),
    ∀ second ∈ deliveries.flatMap (Delivery.hashed text),
      sha256Text first = sha256Text second → first = second

theorem keyText_injective {text : SessionText} {first second : Delivery}
    (firstAcceptable : Acceptable text first) (secondAcceptable : Acceptable text second)
    (same : first.keyText text = second.keyText text) :
    (first.source text, first.event.eventKey) = (second.source text, second.event.eventKey) := by
  have firstKnown := firstAcceptable.source
  have secondKnown := secondAcceptable.source
  unfold Delivery.keyText at same
  generalize first.source text = source at firstKnown same ⊢
  generalize second.source text = other at secondKnown same ⊢
  simp only [List.mem_cons, List.not_mem_nil, or_false] at firstKnown secondKnown
  rcases firstKnown with rfl | rfl | rfl <;> rcases secondKnown with rfl | rfl | rfl <;>
    simp [← String.toList_inj] at same ⊢
  all_goals exact same

structure Transcribed (text : SessionText) (maxSourceEvents : Nat)
    (deliveries delivered : List Delivery) (transcript : Transcript) : Prop where
  sourceEventKeys : transcript.session.sourceEventKeys =
    (delivered.map fun delivery => sha256Text (delivery.keyText text)).reverse
  maxSourceEvents : transcript.session.maxSourceEvents = maxSourceEvents
  unsealed : transcript.session.terminalWatermarks = none
  active : transcript.session.trainingActive = true
  messages : MessagesLogged text (deliveries.filterMap (Delivery.message text)) delivered
    transcript.session.logSources transcript.messages
  metrics : MetricsRecorded text (deliveries.flatMap fun delivery => delivery.event.metrics)
    (delivered.flatMap fun delivery => delivery.event.metrics)
    transcript.session.metricSources transcript.metrics

section

variable {text : SessionText} {maxSourceEvents : Nat} {deliveries delivered rest : List Delivery}
  {delivery : Delivery} {transcript : Transcript}

theorem Deliverable.messages_distinct (deliverable : Deliverable text maxSourceEvents deliveries) :
    ∀ first ∈ deliveries.filterMap (Delivery.message text),
      ∀ second ∈ deliveries.filterMap (Delivery.message text),
        sha256Text first = sha256Text second → first = second := by
  have hashed : ∀ message ∈ deliveries.filterMap (Delivery.message text),
      message ∈ deliveries.flatMap (Delivery.hashed text) := by
    intro message member
    rcases List.mem_filterMap.mp member with ⟨delivery, made, brought⟩
    apply List.mem_flatMap.mpr
    exact ⟨delivery, made, by simp [Delivery.hashed, brought]⟩
  intro first firstMember second secondMember
  exact deliverable.collisionFree first (hashed first firstMember) second
    (hashed second secondMember)

theorem Deliverable.metrics_distinct (deliverable : Deliverable text maxSourceEvents deliveries)
    (exactly : Function.Injective text.hex) :
    ∀ metric ∈ deliveries.flatMap fun delivery => delivery.event.metrics,
      ∀ other ∈ deliveries.flatMap fun delivery => delivery.event.metrics,
        metricSemanticKey text metric = metricSemanticKey text other → metric = other := by
  have hashed : ∀ metric ∈ deliveries.flatMap fun delivery => delivery.event.metrics,
      metricDocument text metric ∈ deliveries.flatMap (Delivery.hashed text) := by
    intro metric member
    rcases List.mem_flatMap.mp member with ⟨delivery, made, carried⟩
    apply List.mem_flatMap.mpr
    apply Exists.intro delivery
    apply And.intro made
    apply List.mem_append_right
    exact List.mem_map_of_mem carried
  intro metric member other otherMember same
  apply metricDocument_injective exactly
  exact deliverable.collisionFree _ (hashed metric member) _ (hashed other otherMember) same

theorem Transcribed.fresh (deliverable : Deliverable text maxSourceEvents deliveries)
    (order : deliveries = delivered ++ delivery :: rest)
    (fits : Transcribed text maxSourceEvents deliveries delivered transcript) :
    sha256Text (delivery.keyText text) ∉ transcript.session.sourceEventKeys := by
  intro member
  rw [fits.sourceEventKeys, List.mem_reverse] at member
  rcases List.mem_map.mp member with ⟨earlier, before, same⟩
  have made : ∀ other, other = delivery ∨ other ∈ delivered → other ∈ deliveries := by
    rintro other (rfl | old)
    · rw [order]
      simp
    · rw [order]
      exact List.mem_append_left _ old
  have hashed : ∀ other ∈ deliveries, other.keyText text ∈
      deliveries.flatMap (Delivery.hashed text) := by
    intro other otherMade
    exact List.mem_flatMap.mpr ⟨other, otherMade, by simp [Delivery.hashed]⟩
  have earlierMade := made earlier (Or.inr before)
  have deliveryMade := made delivery (Or.inl rfl)
  have texts := deliverable.collisionFree _ (hashed earlier earlierMade) _
    (hashed delivery deliveryMade) same
  have keys := keyText_injective (deliverable.acceptable earlier earlierMade)
    (deliverable.acceptable delivery deliveryMade) texts
  have own := deliverable.ownKeys
  rw [order, List.map_append, List.map_cons] at own
  exact (List.nodup_append.mp own).2.2 _ (List.mem_map_of_mem before) _ List.mem_cons_self keys

theorem Transcribed.deliver (exactly : Function.Injective text.hex)
    (deliverable : Deliverable text maxSourceEvents deliveries)
    (order : deliveries = delivered ++ delivery :: rest)
    (fits : Transcribed text maxSourceEvents deliveries delivered transcript) :
    ∃ after, transcript.deliver text delivery = .ok after ∧
      Transcribed text maxSourceEvents deliveries (delivered ++ [delivery]) after := by
  have made : delivery ∈ deliveries := by
    rw [order]
    simp
  have acceptable := deliverable.acceptable delivery made
  have room : transcript.session.sourceEventKeys.length < transcript.session.maxSourceEvents := by
    have total := deliverable.room
    rw [order, List.length_append, List.length_cons] at total
    rw [fits.sourceEventKeys, fits.maxSourceEvents, List.length_reverse, List.length_map]
    omega
  rcases deliver_adds acceptable fits.unsealed fits.active (fits.fresh deliverable order) room with
    ⟨after, done, adds⟩
  apply Exists.intro after
  apply And.intro done
  constructor
  · rw [adds.sourceEventKeys, fits.sourceEventKeys, List.map_append, List.reverse_append]
    rfl
  · exact adds.maxSourceEvents.trans fits.maxSourceEvents
  · exact adds.terminalWatermarks.trans fits.unsealed
  · exact adds.trainingActive.trans fits.active
  · rw [adds.logSources, adds.messages]
    by_cases silent : ∀ message, delivery.message text = some message → message = ""
    · rw [logged_silent silent]
      simp only [Option.map_none, Option.toList_none, List.append_nil]
      exact fits.messages.silent silent
    · push Not at silent
      rcases silent with ⟨message, brought, spoken⟩
      rcases logged_spoken brought spoken with ⟨sources, logged⟩
      rw [sources, logged]
      have known : message ∈ deliveries.filterMap (Delivery.message text) :=
        List.mem_filterMap.mpr ⟨delivery, made, brought⟩
      have given : delivery.event.message ≠ none := by
        intro none
        rw [Delivery.message, none] at brought
        cases brought
      have either : ∃ other, (delivery.source text = "stdout" ∧ other = "train_log") ∨
          (delivery.source text = "train_log" ∧ other = "stdout") := by
        rcases acceptable.spoken given with stdout | trainLog
        · exact ⟨"train_log", Or.inl ⟨stdout, rfl⟩⟩
        · exact ⟨"stdout", Or.inr ⟨trainLog, rfl⟩⟩
      rcases either with ⟨other, either⟩
      exact fits.messages.spoken known spoken brought rfl either deliverable.messages_distinct
  · rw [adds.metricSources, adds.metrics, List.flatMap_append, List.flatMap_singleton]
    apply collectMetrics_recorded (deliverable.metrics_distinct exactly) transcript.session
    · intro metric member
      exact List.mem_flatMap.mpr ⟨delivery, made, member⟩
    · exact acceptable.metrics
    · simp only [List.map_nil, List.append_nil]
      exact fits.metrics

theorem Transcribed.deliverAll (exactly : Function.Injective text.hex)
    (deliverable : Deliverable text maxSourceEvents deliveries)
    (order : deliveries = delivered ++ rest)
    (fits : Transcribed text maxSourceEvents deliveries delivered transcript) :
    ∃ after, transcript.deliverAll text rest = .ok after ∧
      Transcribed text maxSourceEvents deliveries deliveries after := by
  induction rest generalizing delivered transcript with
  | nil =>
      rw [List.append_nil] at order
      rw [← order] at fits
      exact ⟨transcript, rfl, fits⟩
  | cons delivery rest induction =>
      rcases fits.deliver exactly deliverable order with ⟨next, done, nextFits⟩
      rw [Transcript.deliverAll, List.foldlM_cons, done]
      exact induction (order.trans (List.append_cons delivered delivery rest)) nextFits

end

theorem start_transcribed (text : SessionText) (jobId attemptId leaseId : String)
    (maxSourceEvents : Nat) (deliveries : List Delivery) :
    Transcribed text maxSourceEvents deliveries []
      (.start jobId attemptId leaseId maxSourceEvents) where
  sourceEventKeys := rfl
  maxSourceEvents := rfl
  unsealed := rfl
  active := rfl
  messages := by
    constructor
    · intro entry member
      cases member
    · intro message _ _ source
      constructor <;> intro member <;> cases member
    · intro message
      exact (ite_self 0).symm
  metrics := by
    constructor
    · intro metric _
      constructor
      · intro seen
        exact absurd rfl seen
      · intro member
        cases member
    · exact List.nodup_nil
    · intro metric
      exact Iff.rfl

/-- Every message is logged as often as one source brings it, and every metric recorded once. -/
structure Deduplicated (text : SessionText) (deliveries : List Delivery)
    (transcript : Transcript) : Prop where
  messages : transcript.messages.Perm (streamOf text "stdout" deliveries)
  metrics : transcript.metrics.Perm
    (deliveries.flatMap fun delivery => delivery.event.metrics).dedup

/-- Every metric is recorded once, in whichever order the sources bring them. The messages of two
equal streams are logged as often as they occur in one exactly if none occurs twice in it, and none
is empty. -/
theorem deduplicated_iff (text : SessionText) (exactly : Function.Injective text.hex)
    (jobId attemptId leaseId : String) (maxSourceEvents : Nat) (deliveries : List Delivery)
    (deliverable : Deliverable text maxSourceEvents deliveries) :
    ∃ transcript,
      Transcript.deliverAll text (.start jobId attemptId leaseId maxSourceEvents) deliveries =
        .ok transcript ∧
      transcript.metrics.Perm
        (deliveries.flatMap fun delivery => delivery.event.metrics).dedup ∧
      (Deduplicated text deliveries transcript ↔
        (streamOf text "stdout" deliveries).Nodup ∧ "" ∉ streamOf text "stdout" deliveries) := by
  rcases (start_transcribed text jobId attemptId leaseId maxSourceEvents deliveries).deliverAll
    exactly deliverable (List.nil_append deliveries).symm with ⟨transcript, done, fits⟩
  have metrics : transcript.metrics.Perm
      (deliveries.flatMap fun delivery => delivery.event.metrics).dedup := by
    apply (List.perm_ext_iff_of_nodup fits.metrics.nodup (List.nodup_dedup _)).mpr
    intro metric
    rw [fits.metrics.members, List.mem_dedup]
  have sameStreams : (streamOf text "stdout" deliveries).Perm
      (streamOf text "train_log" deliveries) := deliverable.sameMessages.map text.sanitized
  have counts : ∀ message, transcript.messages.count message =
      if message = "" then 0
      else timesLogged ((streamOf text "stdout" deliveries).count message)
        ((streamOf text "stdout" deliveries).count message) := by
    intro message
    rw [fits.messages.counts message, ← (sameStreams.count_eq message)]
  refine ⟨transcript, done, metrics, ?_⟩
  constructor
  · intro deduplicated
    have sameCounts := List.perm_iff_count.mp deduplicated.messages
    constructor
    · apply List.nodup_iff_count_le_one.mpr
      intro message
      by_cases empty : message = ""
      · have none := (sameCounts message).symm.trans (counts message)
        rw [if_pos empty] at none
        omega
      · have same := (counts message).symm.trans (sameCounts message)
        rw [if_neg empty] at same
        exact timesLogged_self_eq_self.mp same
    · apply List.count_eq_zero.mp
      rw [← sameCounts ""]
      exact counts ""
  · rintro ⟨once, noneEmpty⟩
    apply Deduplicated.mk _ metrics
    apply List.perm_iff_count.mpr
    intro message
    rw [counts message]
    split
    · next empty =>
        rw [empty, List.count_eq_zero_of_not_mem noneEmpty]
    · exact timesLogged_self_eq_self.mpr (List.nodup_iff_count_le_one.mp once message)

/-! ## A repeated line -/

def plainText : SessionText where
  normalized := id
  sanitized := id
  hex value := String.ofList value.repr
  float _ := none
  one := .zero
  zero := .zero

theorem plainText_hex : Function.Injective plainText.hex := by
  intro value other same
  exact PyFloat.repr_injective (String.ofList_injective same)

def lineFrom (source eventKey message : String) : Delivery :=
  ⟨⟨source, eventKey, some message, [], none⟩, 0⟩

theorem lineFrom_acceptable {source eventKey : String} (message : String)
    (known : source = "stdout" ∨ source = "train_log")
    (short : eventKey ≠ "" ∧ eventKey.utf8ByteSize ≤ 4096) :
    Acceptable plainText (lineFrom source eventKey message) where
  source := by
    rcases known with rfl | rfl <;> simp [Delivery.source, plainText, lineFrom]
  spoken _ := known
  eventKey := short
  few := Nat.zero_le 1000
  metrics := by
    intro metric member
    cases member

def repeatedLine : List Delivery :=
  [lineFrom "train_log" "0" "a", lineFrom "stdout" "0" "a", lineFrom "train_log" "1" "a",
    lineFrom "stdout" "1" "a"]

theorem repeatedLine_deliverable : Deliverable plainText 250000 repeatedLine where
  acceptable := by
    have eachIs : ∀ delivery ∈ repeatedLine, ∃ source eventKey,
        (source = "stdout" ∨ source = "train_log") ∧ (eventKey = "0" ∨ eventKey = "1") ∧
          delivery = lineFrom source eventKey "a" := by
      intro delivery member
      simp only [repeatedLine, List.mem_cons, List.not_mem_nil, or_false] at member
      rcases member with rfl | rfl | rfl | rfl
      · exact ⟨"train_log", "0", Or.inr rfl, Or.inl rfl, rfl⟩
      · exact ⟨"stdout", "0", Or.inl rfl, Or.inl rfl, rfl⟩
      · exact ⟨"train_log", "1", Or.inr rfl, Or.inr rfl, rfl⟩
      · exact ⟨"stdout", "1", Or.inl rfl, Or.inr rfl, rfl⟩
    intro delivery member
    rcases eachIs delivery member with ⟨source, eventKey, known, short, rfl⟩
    apply lineFrom_acceptable "a" known
    rcases short with rfl | rfl <;> decide
  sameMessages := by
    have same : broughtBy plainText "stdout" repeatedLine =
        broughtBy plainText "train_log" repeatedLine := by decide
    rw [same]
  ownKeys := by decide
  room := by decide
  collisionFree := by decide +kernel

def singleLine : List Delivery := [lineFrom "train_log" "0" "a", lineFrom "stdout" "0" "a"]

theorem singleLine_deliverable : Deliverable plainText 250000 singleLine where
  acceptable := by
    intro delivery member
    rcases List.mem_pair.mp member with rfl | rfl
    · exact lineFrom_acceptable "a" (Or.inr rfl) (by decide)
    · exact lineFrom_acceptable "a" (Or.inl rfl) (by decide)
  sameMessages := by
    have same : broughtBy plainText "stdout" singleLine =
        broughtBy plainText "train_log" singleLine := by decide
    rw [same]
  ownKeys := by decide
  room := by decide
  collisionFree := by
    have contained : ∀ text ∈ singleLine.flatMap (Delivery.hashed plainText),
        text ∈ repeatedLine.flatMap (Delivery.hashed plainText) := by decide
    intro first firstMember second secondMember
    exact repeatedLine_deliverable.collisionFree first (contained first firstMember) second
      (contained second secondMember)

theorem deduplicated_iff_singleLine :
    ∃ transcript,
      Transcript.deliverAll plainText (.start "job" "attempt" "lease" 250000) singleLine =
        .ok transcript ∧ Deduplicated plainText singleLine transcript := by
  rcases deduplicated_iff plainText plainText_hex "job" "attempt" "lease" 250000 singleLine
    singleLine_deliverable with ⟨transcript, done, _, deduplicated⟩
  exact ⟨transcript, done, deduplicated.mpr (by decide)⟩

theorem run_deliveries_singleLine :
    ∃ transcript,
      Transcript.deliverAll plainText (.start "job" "attempt" "lease" 250000) singleLine =
        .ok transcript ∧
      ∃ new, transcript.stored = [] ++ new ∧ ∀ spool,
        new.foldlM (TelemetrySpool.enqueue ⟨9, 1, fun _ => 1⟩) ⟨[], []⟩ = .ok spool →
          run (stepTelemetry ⟨9, 1, fun _ => 1⟩ plainText)
              (TelemetryWorld.start "job" "attempt" "lease" 250000)
              (singleLine.flatMap Delivery.steps) =
            { TelemetryWorld.start "job" "attempt" "lease" 250000 with
              session := transcript.session, recording := none, spool := spool } := by
  rcases (start_transcribed plainText "job" "attempt" "lease" 250000 singleLine).deliverAll
    plainText_hex singleLine_deliverable (List.nil_append singleLine).symm with
    ⟨transcript, done, -⟩
  exact ⟨transcript, done, run_deliveries rfl done⟩

/-- The line is logged three times. -/
theorem not_always_deduplicated :
    ¬∀ (text : SessionText), Function.Injective text.hex →
      ∀ (jobId attemptId leaseId : String) (maxSourceEvents : Nat) (deliveries : List Delivery),
        Deliverable text maxSourceEvents deliveries →
        ∃ transcript,
          Transcript.deliverAll text (.start jobId attemptId leaseId maxSourceEvents) deliveries =
            .ok transcript ∧
          Deduplicated text deliveries transcript := by
  intro always
  rcases always plainText plainText_hex "job" "attempt" "lease" 250000 repeatedLine
    repeatedLine_deliverable with ⟨transcript, done, deduplicated⟩
  rcases (start_transcribed plainText "job" "attempt" "lease" 250000 repeatedLine).deliverAll
    plainText_hex repeatedLine_deliverable (List.nil_append repeatedLine).symm with
    ⟨other, again, fits⟩
  have same : other = transcript := Except.ok.inj (again.symm.trans done)
  rw [same] at fits
  have logged : transcript.messages.count "a" = 3 := fits.messages.counts "a"
  have streamed : (streamOf plainText "stdout" repeatedLine).count "a" = 2 := by decide
  have counts := deduplicated.messages.count_eq "a"
  rw [logged, streamed] at counts
  cases counts

end RvcOrchestrator.Worker

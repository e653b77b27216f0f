import RvcOrchestrator.Foundation.Execution
import RvcOrchestrator.Worker.TelemetrySession

/-! # Delivery order

A session stores its batches while flushes of the same spool send them. They reach the Manager in
the order of their sequences as long as no flush finds batches of one kind whose file names are in
another order.
-/

namespace RvcOrchestrator.Worker

open RvcOrchestrator.Foundation RvcOrchestrator.Contracts

/-! ## Runs -/

structure TelemetryWorld where
  session : AttemptTelemetrySession
  /-- What the holder of the state lock has to store. -/
  recording : Option Recording
  spool : TelemetrySpool
  /-- The flush that holds the flush lock. -/
  flush : Option Flush
  /-- Every record that has reached the Manager, the first first. -/
  received : List SpoolRecord

inductive TelemetryStep where
  | recordTrainingEvent (event : TrainingEvent) (now : Int)
  | recordStageCompleted (stage : JobStatus) (stageOrdinal createdPathCount : Nat) (now : Int)
  | recordSystemSnapshot (snapshot : SystemSnapshot) (now : Int)
  /-- The holder of the state lock stores its next batch. -/
  | write
  /-- A batch of another attempt, from the same Worker. -/
  | writeOther (record : SpoolRecord)
  | finishTraining
  | watermarks
  | flush
  /-- The file of the current record cannot be read, or holds no batch any more. -/
  | misread
  /-- The current record is sent, and reaches the Manager or not. -/
  | send (reaches : Bool)
  | answer (outcome : SendOutcome)
  /-- The flush is cancelled, or fails. -/
  | abandonFlush

namespace TelemetryWorld

/-- The state lock is taken by an event, unless another holds it. -/
def record (world : TelemetryWorld)
    (event : AttemptTelemetrySession → EventOutcome) : TelemetryWorld :=
  match world.recording with
  | some _ => world
  | none =>
      match event world.session with
      | (session, .error _) => { world with session }
      | (session, .ok recording) => { world with session, recording := some recording }

def write (settings : SpoolSettings) (world : TelemetryWorld) : TelemetryWorld :=
  match world.recording with
  | none => world
  | some recording =>
      match recording.log, recording.metric with
      | some log, _ =>
          match world.spool.enqueue settings log with
          | .error _ => { world with recording := none }
          | .ok spool =>
              { world with
                spool
                session :=
                  { world.session with nextLogSequence := world.session.nextLogSequence + 1 }
                recording := some { recording with log := none } }
      | none, some metric =>
          if recording.accepted = false then { world with recording := none }
          else
            match world.spool.enqueue settings metric with
            | .error _ => { world with recording := none }
            | .ok spool =>
                { world with
                  spool
                  session :=
                    { world.session with
                      nextMetricSequence :=
                        world.session.nextMetricSequence + metric.sequences.length
                      pendingEpoch := recording.pendingEpoch
                      systemSnapshotOrdinal := recording.systemSnapshotOrdinal }
                  recording := none }
      | none, none => { world with recording := none }

def writeOther (settings : SpoolSettings) (world : TelemetryWorld) (record : SpoolRecord) :
    TelemetryWorld :=
  if record.attemptId = world.session.attemptId then world
  else
    match world.spool.enqueue settings record with
    | .error _ => world
    | .ok spool => { world with spool }

def startFlush (world : TelemetryWorld) : TelemetryWorld :=
  match world.flush with
  | some _ => world
  | none => { world with flush := some ⟨world.spool.listPending, none⟩ }

def misread (world : TelemetryWorld) : TelemetryWorld :=
  match world.flush with
  | some ⟨record :: records, none⟩ =>
      { world with
        spool := world.spool.moveToDeadLetter record "corrupt"
        flush := some ⟨records, none⟩ }
  | _ => world

def send (world : TelemetryWorld) (reaches : Bool) : TelemetryWorld :=
  match world.flush with
  | some ⟨record :: records, none⟩ =>
      { world with
        flush := some ⟨record :: records, some reaches⟩
        received := if reaches then world.received ++ [record] else world.received }
  | _ => world

/-- Only a record that has reached the Manager is accepted. The client refuses one without a
request if it has no token. -/
def answer (world : TelemetryWorld) (outcome : SendOutcome) : TelemetryWorld :=
  match world.flush with
  | some ⟨record :: records, some reached⟩ =>
      match outcome, reached with
      | .accepted, true =>
          { world with
            spool := world.spool.removeRecord record
            flush := some ⟨records, none⟩ }
      | .refused statusCode, _ =>
          { world with
            spool := world.spool.moveToDeadLetter record (deadLetterReason statusCode)
            flush := some ⟨records, none⟩ }
      | .retryable, _ => { world with flush := none }
      | .accepted, false => world
  | _ => world

def endFlush (world : TelemetryWorld) : TelemetryWorld :=
  { world with flush := none }

end TelemetryWorld

open TelemetryWorld in
def stepTelemetry (settings : SpoolSettings) (text : SessionText) (world : TelemetryWorld) :
    TelemetryStep → TelemetryWorld
  | .recordTrainingEvent event now =>
      world.record fun session => session.recordTrainingEvent text event now
  | .recordStageCompleted stage stageOrdinal createdPathCount now =>
      world.record fun session =>
        session.recordStageCompleted text stage stageOrdinal createdPathCount now
  | .recordSystemSnapshot snapshot now =>
      world.record fun session => session.recordSystemSnapshot text snapshot now
  | .write => world.write settings
  | .writeOther record => world.writeOther settings record
  | .finishTraining =>
      if world.recording.isSome then world
      else { world with session := world.session.finishTraining }
  | .watermarks =>
      if world.recording.isSome then world
      else { world with session := world.session.watermarks }
  | .flush => world.startFlush
  | .misread => world.misread
  | .send reaches => world.send reaches
  | .answer outcome => world.answer outcome
  | .abandonFlush => world.endFlush

/-! ## What an event records -/

structure SameNumbering (before after : AttemptTelemetrySession) : Prop where
  attemptId : after.attemptId = before.attemptId
  nextLogSequence : after.nextLogSequence = before.nextLogSequence
  nextMetricSequence : after.nextMetricSequence = before.nextMetricSequence

structure RecordingFits (session : AttemptTelemetrySession) (recording : Recording) : Prop where
  log : ∀ record, recording.log = some record →
    record.attemptId = session.attemptId ∧ record.kind = .log ∧
      record.sequences = [session.nextLogSequence]
  metric : ∀ record, recording.metric = some record →
    record.attemptId = session.attemptId ∧ record.kind = .metric ∧
      record.sequences = List.range' session.nextMetricSequence record.sequences.length

structure OutcomeFits (session : AttemptTelemetrySession) (outcome : EventOutcome) : Prop where
  numbering : SameNumbering session outcome.1
  recording : ∀ recording, outcome.2 = .ok recording → RecordingFits session recording

theorem SameNumbering.refl (session : AttemptTelemetrySession) : SameNumbering session session :=
  ⟨rfl, rfl, rfl⟩

namespace AttemptTelemetrySession

variable {session : AttemptTelemetrySession}

theorem nothing_fits {pendingEpoch : Option Int} {ordinal : Nat} :
    RecordingFits session ⟨none, none, pendingEpoch, ordinal⟩ := by
  constructor <;> intro record recorded <;> cases recorded

theorem refused_fits {after : AttemptTelemetrySession} {error : String}
    (numbering : SameNumbering session after) :
    OutcomeFits session (after, .error error) := by
  apply OutcomeFits.mk numbering
  intro recording recorded
  cases recorded

theorem recorded_fits {after : AttemptTelemetrySession} {recording : Recording}
    (numbering : SameNumbering session after) (fits : RecordingFits session recording) :
    OutcomeFits session (after, .ok recording) := by
  apply OutcomeFits.mk numbering
  intro other recorded
  cases recorded
  exact fits

theorem collectMetrics_sequences (text : SessionText) (source eventKey : String) (now : Int)
    (metrics : List ParsedTrainingMetric) (position : Nat) {collection : MetricCollection}
    (numbered : collection.entries.map MetricEntry.sequence =
      List.range' session.nextMetricSequence collection.entries.length) :
    let collected :=
      (collectMetrics text session source eventKey now position collection metrics).1.entries
    collected.map MetricEntry.sequence =
      List.range' session.nextMetricSequence collected.length := by
  induction metrics generalizing position collection with
  | nil => exact numbered
  | cons metric metrics induction =>
      rw [collectMetrics]
      simp only
      split
      · exact induction (position + 1) numbered
      · split
        · exact numbered
        · apply induction
          rw [List.map_append, numbered, List.length_append, List.map_singleton,
            List.length_singleton, List.range'_concat, Nat.one_mul]

theorem metricBatch_sequences (eventKeys : List String) {entries : List MetricEntry}
    (numbered : entries.map MetricEntry.sequence =
      List.range' session.nextMetricSequence entries.length) :
    (session.metricBatch eventKeys entries).sequences =
      List.range' session.nextMetricSequence
        (session.metricBatch eventKeys entries).sequences.length := by
  have sequences : (session.metricBatch eventKeys entries).sequences =
      entries.map MetricEntry.sequence := rfl
  rw [sequences, List.length_map]
  exact numbered

theorem collectLog_sequence {source eventKey : String} {channel message : Option String}
    {now : Int} {entry : LogEntry}
    (collected : (session.collectLog source eventKey channel message now).2 = some entry) :
    entry.sequence = session.nextLogSequence := by
  unfold collectLog at collected
  split at collected
  · cases collected
  · split at collected
    · cases collected
    · simp only at collected
      split at collected
      · cases collected
        rfl
      · cases collected

theorem recordTrainingEvent_fits (text : SessionText) (event : TrainingEvent) (now : Int) :
    OutcomeFits session (session.recordTrainingEvent text event now) := by
  unfold recordTrainingEvent
  cases normalizeSource text event.source with
  | error error => exact refused_fits (.refl _)
  | ok source =>
      simp only
      cases sourceEventKey source event.eventKey with
      | error error => exact refused_fits (.refl _)
      | ok eventKey =>
          simp only
          split
          · exact refused_fits (.refl _)
          · split
            · exact refused_fits (.refl _)
            · split
              · exact recorded_fits (.refl _) nothing_fits
              · split
                · exact refused_fits (.refl _)
                · have empty : List.map MetricEntry.sequence (MetricCollection.mk
                      session.metricSources [] [] session.pendingEpoch).entries =
                        List.range' session.nextMetricSequence 0 := rfl
                  have numbered := collectMetrics_sequences text source eventKey now event.metrics 0
                    empty
                  simp only at numbered
                  generalize collectMetrics text session source eventKey now 0
                    ⟨session.metricSources, [], [], session.pendingEpoch⟩ event.metrics =
                      collected at numbered ⊢
                  split
                  · exact refused_fits ⟨rfl, rfl, rfl⟩
                  · apply recorded_fits
                    · exact ⟨rfl, rfl, rfl⟩
                    · constructor
                      · intro record recorded
                        rcases Option.map_eq_some_iff.mp recorded with ⟨entry, logged, rfl⟩
                        have sequence := collectLog_sequence logged
                        exact ⟨rfl, rfl, congrArg (fun number => [number]) sequence⟩
                      · intro record recorded
                        simp only at recorded
                        split at recorded
                        · cases recorded
                        · cases recorded
                          exact ⟨rfl, rfl, metricBatch_sequences _ numbered⟩

theorem recordStageCompleted_fits (text : SessionText) (stage : JobStatus)
    (stageOrdinal createdPathCount : Nat) (now : Int) :
    OutcomeFits session
      (session.recordStageCompleted text stage stageOrdinal createdPathCount now) := by
  unfold recordStageCompleted
  simp only
  split
  · exact refused_fits (.refl _)
  · split
    · exact recorded_fits (.refl _) nothing_fits
    · split
      · exact refused_fits (.refl _)
      · apply recorded_fits
        · exact ⟨rfl, rfl, rfl⟩
        · constructor
          · intro record recorded
            cases recorded
            exact ⟨rfl, rfl, rfl⟩
          · intro record recorded
            cases recorded
            exact ⟨rfl, rfl, rfl⟩

theorem systemEntries_sequences (values : List (String × PyFloat)) (now : Int) :
    (session.systemEntries values now).map MetricEntry.sequence =
      List.range' session.nextMetricSequence (session.systemEntries values now).length := by
  rw [systemEntries, List.map_map, List.length_map, List.length_zipIdx]
  have numbered : (MetricEntry.sequence ∘ fun value : (String × PyFloat) × Nat =>
      { sequence := session.nextMetricSequence + value.2, key := value.1.1, value := value.1.2
        epoch := none, step := none, occurredAt := now }) =
      (session.nextMetricSequence + ·) ∘ Prod.snd := rfl
  rw [numbered, ← List.map_map, List.zipIdx_map_snd, List.map_add_range', Nat.add_zero]

theorem recordSystemSnapshot_fits (text : SessionText) (snapshot : SystemSnapshot) (now : Int) :
    OutcomeFits session (session.recordSystemSnapshot text snapshot now) := by
  unfold recordSystemSnapshot
  simp only
  split
  · exact refused_fits (.refl _)
  · split
    · exact refused_fits (.refl _)
    · next values rendered =>
        split
        · exact recorded_fits (.refl _) nothing_fits
        · split
          · exact refused_fits (.refl _)
          · split
            · exact refused_fits (.refl _)
            · apply recorded_fits (.refl _)
              constructor
              · intro record recorded
                cases recorded
              · intro record recorded
                cases recorded
                exact ⟨rfl, rfl, metricBatch_sequences _ (systemEntries_sequences values now)⟩

end AttemptTelemetrySession

/-! ## Enqueuing -/

theorem enqueue_eq_ok {settings : SpoolSettings} {spool next : TelemetrySpool}
    {record : SpoolRecord} (enqueued : spool.enqueue settings record = .ok next) :
    next = spool ∨
      next = { spool with pending := spool.pending ++ [record] } ∧
        ∀ other ∈ spool.pending, other.name ≠ record.name := by
  unfold TelemetrySpool.enqueue at enqueued
  split at enqueued
  · cases enqueued
  · split at enqueued
    · cases enqueued
    · unfold TelemetrySpool.writeRecord at enqueued
      split at enqueued
      · split at enqueued
        · cases enqueued
        · cases enqueued
          exact .inl rfl
      · next absent =>
          split at enqueued
          · cases enqueued
          · cases enqueued
            apply Or.inr
            apply And.intro rfl
            intro other member same
            have different := List.find?_eq_none.mp absent other member
            exact different (decide_eq_true same)

theorem enqueue_of_fresh {settings : SpoolSettings} {spool : TelemetrySpool}
    {record : SpoolRecord} (safe : validateJobId record.jobId = .ok ())
    (size : settings.encodedBytes record ≤ settings.maxRecordBytes)
    (room : (spool.pending.map settings.encodedBytes).sum + settings.encodedBytes record ≤
      settings.maxBytes)
    (fresh : ∀ other ∈ spool.pending, other.name ≠ record.name) :
    spool.enqueue settings record = .ok { spool with pending := spool.pending ++ [record] } := by
  have absent : (spool.pending.find? fun other => other.name = record.name) = none := by
    apply List.find?_eq_none.mpr
    intro other member same
    exact fresh other member (of_decide_eq_true same)
  rw [TelemetrySpool.enqueue, safe]
  simp only
  rw [if_neg size.not_gt, TelemetrySpool.writeRecord, absent]
  simp only
  rw [if_neg room.not_gt]

theorem mem_enqueue {settings : SpoolSettings} {spool next : TelemetrySpool}
    {record other : SpoolRecord} (enqueued : spool.enqueue settings record = .ok next)
    (member : other ∈ next.pending) : other ∈ spool.pending ∨ other = record := by
  rcases enqueue_eq_ok enqueued with rfl | ⟨rfl, -⟩
  · exact .inl member
  · exact (List.mem_append.mp member).imp_right List.mem_singleton.mp

theorem names_enqueue {settings : SpoolSettings} {spool next : TelemetrySpool}
    {record : SpoolRecord} (enqueued : spool.enqueue settings record = .ok next)
    (names : (spool.pending.map SpoolRecord.name).Nodup) :
    (next.pending.map SpoolRecord.name).Nodup := by
  rcases enqueue_eq_ok enqueued with rfl | ⟨rfl, fresh⟩
  · exact names
  · simp only [List.map_append, List.map_singleton]
    apply names.append (List.nodup_singleton _)
    intro name old new
    rcases List.mem_map.mp old with ⟨other, member, rfl⟩
    exact fresh other member (List.mem_singleton.mp new)

/-! ## Order -/

/-- Of two batches of the attempt and one kind, the first has the lower sequences, unless it is
sent twice. -/
def MayFollow (attemptId : String) (first second : SpoolRecord) : Prop :=
  first.attemptId = attemptId → second.attemptId = attemptId → first.kind = second.kind →
    first = second ∨
      ∀ earlier ∈ first.sequences, ∀ later ∈ second.sequences, earlier < later

/-- The records of an attempt have come in the order of their sequences. -/
structure InOrder (attemptId : String) (received : List SpoolRecord) : Prop where
  batches : received.Pairwise (MayFollow attemptId)
  entries : ∀ record ∈ received, record.attemptId = attemptId →
    record.sequences.Pairwise (· < ·)

def AttemptTelemetrySession.nextSequence (session : AttemptTelemetrySession) :
    TelemetryKind → Nat
  | .log => session.nextLogSequence
  | .metric => session.nextMetricSequence

structure Numbered (session : AttemptTelemetrySession) (record : SpoolRecord) : Prop where
  below : record.attemptId = session.attemptId →
    ∀ sequence ∈ record.sequences, sequence < session.nextSequence record.kind
  increasing : record.attemptId = session.attemptId → record.sequences.Pairwise (· < ·)

structure LaterNumbering (before after : AttemptTelemetrySession) : Prop where
  attemptId : after.attemptId = before.attemptId
  nextSequence : ∀ kind, before.nextSequence kind ≤ after.nextSequence kind

theorem SameNumbering.later {before after : AttemptTelemetrySession}
    (same : SameNumbering before after) : LaterNumbering before after := by
  apply LaterNumbering.mk same.attemptId
  intro kind
  cases kind with
  | log => exact same.nextLogSequence.ge
  | metric => exact same.nextMetricSequence.ge

theorem Numbered.later {before after : AttemptTelemetrySession} {record : SpoolRecord}
    (numbered : Numbered before record) (later : LaterNumbering before after) :
    Numbered after record := by
  constructor
  · intro own sequence member
    rw [later.attemptId] at own
    exact (numbered.below own sequence member).trans_le (later.nextSequence record.kind)
  · intro own
    rw [later.attemptId] at own
    exact numbered.increasing own

/-- What has been numbered before may be received before. -/
theorem Numbered.mayFollow {session : AttemptTelemetrySession} {first second : SpoolRecord}
    (numbered : Numbered session first)
    (fresh : ∀ sequence ∈ second.sequences, session.nextSequence second.kind ≤ sequence) :
    MayFollow session.attemptId first second := by
  intro firstOwn secondOwn kind
  apply Or.inr
  intro earlier among later follows
  have low := numbered.below firstOwn earlier among
  rw [kind] at low
  exact low.trans_le (fresh later follows)

theorem RecordingFits.sameNumbering {before after : AttemptTelemetrySession}
    {recording : Recording} (fits : RecordingFits before recording)
    (same : SameNumbering before after) : RecordingFits after recording := by
  constructor
  · rw [same.attemptId, same.nextLogSequence]
    exact fits.log
  · rw [same.attemptId, same.nextMetricSequence]
    exact fits.metric

/-! ## What every run keeps -/

structure WorldFits (attemptId : String) (world : TelemetryWorld) : Prop where
  attempt : world.session.attemptId = attemptId
  recording : ∀ recording, world.recording = some recording →
    RecordingFits world.session recording
  stored : ∀ record ∈ world.spool.pending, Numbered world.session record
  listed : ∀ flush, world.flush = some flush → ∀ record ∈ flush.records,
    Numbered world.session record
  received : ∀ record ∈ world.received, Numbered world.session record
  names : (world.spool.pending.map SpoolRecord.name).Nodup

namespace TelemetryWorld

variable {attemptId : String} {world : TelemetryWorld}

/-- Only the session changes, and its next sequences do not go back. -/
theorem withSession_fits (fits : WorldFits attemptId world) {session : AttemptTelemetrySession}
    (later : LaterNumbering world.session session) {recording : Option Recording}
    (recorded : ∀ other, recording = some other → RecordingFits session other) :
    WorldFits attemptId { world with session, recording } where
  attempt := later.attemptId.trans fits.attempt
  recording := recorded
  stored := fun record member => (fits.stored record member).later later
  listed := fun flush flushing record member =>
    (fits.listed flush flushing record member).later later
  received := fun record member => (fits.received record member).later later
  names := fits.names

/-- The numbering stays, and with it what is being recorded. -/
theorem withNumbering_fits (fits : WorldFits attemptId world) {session : AttemptTelemetrySession}
    (same : SameNumbering world.session session) : WorldFits attemptId { world with session } := by
  apply withSession_fits fits same.later
  intro recording held
  exact (fits.recording recording held).sameNumbering same

theorem record_fits (fits : WorldFits attemptId world)
    {event : AttemptTelemetrySession → EventOutcome}
    (outcome : OutcomeFits world.session (event world.session)) :
    WorldFits attemptId (world.record event) := by
  unfold record
  split
  · exact fits
  · next free =>
      split
      · next session error refused =>
          have numbering := outcome.numbering
          rw [refused] at numbering
          rw [free]
          apply withSession_fits fits numbering.later
          intro other recorded
          cases recorded
      · next session recording accepted =>
          have numbering := outcome.numbering
          have recordingFits := outcome.recording recording (by rw [accepted])
          rw [accepted] at numbering
          apply withSession_fits fits numbering.later
          intro other recorded
          cases recorded
          exact recordingFits.sameNumbering numbering

/-- A record that is enqueued while the session moves on. -/
theorem enqueued_fits {settings : SpoolSettings} (fits : WorldFits attemptId world)
    {record : SpoolRecord} {spool : TelemetrySpool}
    (enqueued : world.spool.enqueue settings record = .ok spool)
    {session : AttemptTelemetrySession} (later : LaterNumbering world.session session)
    (numbered : Numbered session record) {recording : Option Recording}
    (recorded : ∀ other, recording = some other → RecordingFits session other) :
    WorldFits attemptId { world with spool, session, recording } where
  attempt := later.attemptId.trans fits.attempt
  recording := recorded
  stored := by
    intro other member
    rcases mem_enqueue enqueued member with old | rfl
    · exact (fits.stored other old).later later
    · exact numbered
  listed := fun flush flushing record member =>
    (fits.listed flush flushing record member).later later
  received := fun record member => (fits.received record member).later later
  names := names_enqueue enqueued fits.names

theorem dropRecording_fits (fits : WorldFits attemptId world) :
    WorldFits attemptId { world with recording := none } where
  attempt := fits.attempt
  recording := by
    intro other recorded
    cases recorded
  stored := fits.stored
  listed := fits.listed
  received := fits.received
  names := fits.names

theorem numbered_log {session after : AttemptTelemetrySession} {record : SpoolRecord}
    (next : after.nextLogSequence = session.nextLogSequence + 1)
    (kind : record.kind = .log) (sequences : record.sequences = [session.nextLogSequence]) :
    Numbered after record := by
  constructor
  · intro own sequence member
    rw [sequences] at member
    rw [kind, List.mem_singleton.mp member]
    exact (Nat.lt_succ_self _).trans_eq next.symm
  · intro own
    rw [sequences]
    exact List.pairwise_singleton _ _

theorem numbered_metric {session after : AttemptTelemetrySession} {record : SpoolRecord}
    (next : after.nextMetricSequence = session.nextMetricSequence + record.sequences.length)
    (kind : record.kind = .metric)
    (sequences : record.sequences =
      List.range' session.nextMetricSequence record.sequences.length) :
    Numbered after record := by
  constructor
  · intro own sequence member
    rw [sequences] at member
    rw [kind]
    exact (List.mem_range'_1.mp member).2.trans_eq next.symm
  · intro own
    rw [sequences]
    exact List.pairwise_lt_range'

theorem write_fits (settings : SpoolSettings) (fits : WorldFits attemptId world) :
    WorldFits attemptId (world.write settings) := by
  unfold write
  split
  · exact fits
  · next recording held =>
      have recordingFits := fits.recording recording held
      split
      · next log logged =>
          rcases recordingFits.log log logged with ⟨-, kind, sequences⟩
          split
          · exact dropRecording_fits fits
          · next spool enqueued =>
              apply enqueued_fits fits enqueued
              · constructor
                · rfl
                · intro kind
                  cases kind with
                  | log => exact Nat.le_succ _
                  | metric => exact le_rfl
              · exact numbered_log rfl kind sequences
              · intro other recorded
                cases recorded
                constructor
                · intro record none_left
                  cases none_left
                · exact recordingFits.metric
      · next metric _ measured =>
          rcases recordingFits.metric metric measured with ⟨-, kind, sequences⟩
          split
          · exact dropRecording_fits fits
          · split
            · exact dropRecording_fits fits
            · next spool enqueued =>
                apply enqueued_fits fits enqueued
                · constructor
                  · rfl
                  · intro kind
                    cases kind with
                    | log => exact le_rfl
                    | metric => exact Nat.le_add_right _ _
                · exact numbered_metric rfl kind sequences
                · intro other recorded
                  cases recorded
      · exact dropRecording_fits fits

theorem writeOther_fits (settings : SpoolSettings) (record : SpoolRecord)
    (fits : WorldFits attemptId world) : WorldFits attemptId (world.writeOther settings record) := by
  unfold writeOther
  split
  · exact fits
  · next foreign =>
      split
      · exact fits
      · next spool enqueued =>
          apply enqueued_fits fits enqueued (SameNumbering.refl _).later
          · constructor
            · intro own
              exact absurd own foreign
            · intro own
              exact absurd own foreign
          · exact fits.recording

theorem startFlush_fits (fits : WorldFits attemptId world) :
    WorldFits attemptId world.startFlush := by
  unfold startFlush
  split
  · exact fits
  · constructor
    · exact fits.attempt
    · exact fits.recording
    · exact fits.stored
    · intro flush flushing record member
      cases flushing
      exact fits.stored record (List.mem_mergeSort.mp member)
    · exact fits.received
    · exact fits.names

theorem send_fits (reaches : Bool) (fits : WorldFits attemptId world) :
    WorldFits attemptId (world.send reaches) := by
  unfold send
  split
  · next record records flushing =>
      constructor
      · exact fits.attempt
      · exact fits.recording
      · exact fits.stored
      · intro flush running other member
        cases running
        exact fits.listed _ flushing other member
      · intro other member
        simp only at member
        split at member
        · rcases List.mem_append.mp member with old | new
          · exact fits.received other old
          · rw [List.mem_singleton.mp new]
            exact fits.listed _ flushing record List.mem_cons_self
        · exact fits.received other member
      · exact fits.names
  · exact fits

theorem settled_fits (fits : WorldFits attemptId world) {record : SpoolRecord}
    {records : List SpoolRecord} {sent : Option Bool}
    (flushing : world.flush = some ⟨record :: records, sent⟩) {spool : TelemetrySpool}
    (removed : spool.pending = (world.spool.removeRecord record).pending) :
    WorldFits attemptId { world with spool, flush := some ⟨records, none⟩ } where
  attempt := fits.attempt
  recording := fits.recording
  stored := by
    intro other member
    simp only [removed] at member
    exact fits.stored other (List.mem_filter.mp member).1
  listed := by
    intro flush running other member
    cases running
    exact fits.listed _ flushing other (List.mem_cons_of_mem record member)
  received := fits.received
  names := by
    simp only [removed]
    exact fits.names.sublist (List.filter_sublist.map _)

theorem endFlush_fits (fits : WorldFits attemptId world) : WorldFits attemptId world.endFlush where
  attempt := fits.attempt
  recording := fits.recording
  stored := fits.stored
  listed := by
    intro flush running
    cases running
  received := fits.received
  names := fits.names

theorem misread_fits (fits : WorldFits attemptId world) : WorldFits attemptId world.misread := by
  unfold misread
  split
  · next record records flushing => exact settled_fits fits flushing rfl
  · exact fits

theorem answer_fits (outcome : SendOutcome) (fits : WorldFits attemptId world) :
    WorldFits attemptId (world.answer outcome) := by
  unfold answer
  split
  · next record records reached flushing =>
      split
      · exact settled_fits fits flushing rfl
      · exact settled_fits fits flushing rfl
      · exact endFlush_fits fits
      · exact fits
  · exact fits

end TelemetryWorld

open TelemetryWorld AttemptTelemetrySession in
theorem stepTelemetry_fits {attemptId : String} (settings : SpoolSettings) (text : SessionText)
    {world : TelemetryWorld} (fits : WorldFits attemptId world) (step : TelemetryStep) :
    WorldFits attemptId (stepTelemetry settings text world step) := by
  cases step with
  | recordTrainingEvent event now =>
      rw [stepTelemetry]
      apply record_fits fits
      exact recordTrainingEvent_fits text event now
  | recordStageCompleted stage stageOrdinal createdPathCount now =>
      rw [stepTelemetry]
      apply record_fits fits
      exact recordStageCompleted_fits text stage stageOrdinal createdPathCount now
  | recordSystemSnapshot snapshot now =>
      rw [stepTelemetry]
      apply record_fits fits
      exact recordSystemSnapshot_fits text snapshot now
  | write => exact write_fits settings fits
  | writeOther record => exact writeOther_fits settings record fits
  | finishTraining =>
      rw [stepTelemetry]
      split
      · exact fits
      · exact withNumbering_fits fits ⟨rfl, rfl, rfl⟩
  | watermarks =>
      rw [stepTelemetry]
      split
      · exact fits
      · apply withNumbering_fits fits
        rw [AttemptTelemetrySession.watermarks]
        split
        · exact .refl _
        · exact ⟨rfl, rfl, rfl⟩
  | flush => exact startFlush_fits fits
  | misread => exact misread_fits fits
  | send reaches => exact send_fits reaches fits
  | answer outcome => exact answer_fits outcome fits
  | abandonFlush => exact endFlush_fits fits

/-! ## A run as a replay -/

namespace TelemetryWorld

def replay (world : TelemetryWorld) : Redelivery SpoolRecord where
  stored := world.spool.pending
  listing := (world.flush.map Flush.records).getD []
  received := world.received

/-- The file names of the pending batches of each kind are in the order of their sequences. -/
def NamesInOrder (world : TelemetryWorld) : Prop :=
  ∀ first ∈ world.spool.pending, ∀ second ∈ world.spool.pending,
    first.name < second.name → MayFollow world.session.attemptId first second

theorem listPending_perm (spool : TelemetrySpool) : spool.listPending.Perm spool.pending :=
  List.mergeSort_perm _ _

theorem listPending_sorted (spool : TelemetrySpool) :
    spool.listPending.Pairwise fun first second => first.name ≤ second.name := by
  have sorted : spool.listPending.Pairwise fun first second =>
      decide (first.name ≤ second.name) = true := by
    apply List.pairwise_mergeSort
    · intro first second third left right
      exact decide_eq_true ((of_decide_eq_true left).trans (of_decide_eq_true right))
    · intro first second
      rw [Bool.or_eq_true, decide_eq_true_iff, decide_eq_true_iff]
      exact le_total first.name second.name
  exact sorted.imp of_decide_eq_true

/-- A listing is in the order of the sequences when the names are. -/
theorem listPending_pairwise_iff {world : TelemetryWorld}
    (names : (world.spool.pending.map SpoolRecord.name).Nodup) :
    world.spool.listPending.Pairwise (MayFollow world.session.attemptId) ↔
      world.NamesInOrder := by
  have distinct : world.spool.listPending.Pairwise fun first second =>
      first.name ≠ second.name :=
    List.pairwise_map.mp (((listPending_perm world.spool).map SpoolRecord.name).nodup_iff.mpr names)
  have sorted : world.spool.listPending.Pairwise fun first second => first.name < second.name :=
    ((listPending_sorted world.spool).and distinct).imp fun both => both.1.lt_of_ne both.2
  constructor
  · intro pairwise first firstMember second secondMember lower
    have together := List.pairwise_iff_getElem.mp (sorted.and pairwise)
    rcases List.mem_iff_getElem.mp ((listPending_perm _).mem_iff.mpr firstMember) with
      ⟨left, leftBound, rfl⟩
    rcases List.mem_iff_getElem.mp ((listPending_perm _).mem_iff.mpr secondMember) with
      ⟨right, rightBound, rfl⟩
    rcases Nat.lt_trichotomy left right with before | same | behind
    · exact (together left right leftBound rightBound before).2
    · subst same
      exact absurd lower (lt_irrefl _)
    · exact absurd lower (together right left rightBound leftBound behind).1.asymm
  · intro inOrder
    apply sorted.imp_of_mem
    intro first second firstMember secondMember lower
    exact inOrder first ((listPending_perm _).mem_iff.mp firstMember) second
      ((listPending_perm _).mem_iff.mp secondMember) lower

def Advances (attemptId : String) (before after : TelemetryWorld) : Prop :=
  after.replay = before.replay ∨
    Redelivery.Step (MayFollow attemptId) before.replay after.replay

variable {attemptId : String} {world : TelemetryWorld}

theorem enqueued_advances {settings : SpoolSettings} {record : SpoolRecord}
    {spool : TelemetrySpool} (enqueued : world.spool.enqueue settings record = .ok spool)
    (received : ∀ other ∈ world.received, MayFollow attemptId other record)
    (stored : ∀ other ∈ world.spool.pending, MayFollow attemptId other record)
    (session : AttemptTelemetrySession) (recording : Option Recording) :
    Advances attemptId world { world with spool, session, recording } := by
  rcases enqueue_eq_ok enqueued with rfl | ⟨rfl, -⟩
  · exact .inl rfl
  · exact .inr (.store record received stored)

/-- A batch that continues the sequences of its kind follows all others. -/
theorem fresh_advances {settings : SpoolSettings} (fits : WorldFits attemptId world)
    {record : SpoolRecord} {spool : TelemetrySpool}
    (enqueued : world.spool.enqueue settings record = .ok spool)
    (fresh : ∀ sequence ∈ record.sequences,
      world.session.nextSequence record.kind ≤ sequence)
    (session : AttemptTelemetrySession) (recording : Option Recording) :
    Advances attemptId world { world with spool, session, recording } := by
  apply enqueued_advances enqueued
  · intro other member
    rw [← fits.attempt]
    exact (fits.received other member).mayFollow fresh
  · intro other member
    rw [← fits.attempt]
    exact (fits.stored other member).mayFollow fresh

theorem record_advances (event : AttemptTelemetrySession → EventOutcome) :
    Advances attemptId world (world.record event) := by
  unfold record
  split
  · exact .inl rfl
  · split
    · exact .inl rfl
    · exact .inl rfl

theorem write_advances (settings : SpoolSettings) (fits : WorldFits attemptId world) :
    Advances attemptId world (world.write settings) := by
  unfold write
  split
  · exact .inl rfl
  · next recording held =>
      have recordingFits := fits.recording recording held
      split
      · next log logged =>
          rcases recordingFits.log log logged with ⟨-, kind, sequences⟩
          split
          · exact .inl rfl
          · next spool enqueued =>
              apply fresh_advances fits enqueued
              intro sequence member
              rw [sequences] at member
              rw [kind, List.mem_singleton.mp member]
              exact le_rfl
      · next metric _ measured =>
          rcases recordingFits.metric metric measured with ⟨-, kind, sequences⟩
          split
          · exact .inl rfl
          · split
            · exact .inl rfl
            · next spool enqueued =>
                apply fresh_advances fits enqueued
                intro sequence member
                rw [sequences] at member
                rw [kind]
                exact (List.mem_range'_1.mp member).1
      · exact .inl rfl

theorem writeOther_advances (settings : SpoolSettings) (fits : WorldFits attemptId world)
    (record : SpoolRecord) : Advances attemptId world (world.writeOther settings record) := by
  unfold writeOther
  split
  · exact .inl rfl
  · next foreign =>
      have other (first : SpoolRecord) : MayFollow attemptId first record := by
        intro _ own
        rw [fits.attempt] at foreign
        exact absurd own foreign
      split
      · exact .inl rfl
      · next spool enqueued =>
          exact enqueued_advances enqueued (fun first _ => other first)
            (fun first _ => other first) _ _

theorem startFlush_advances (fits : WorldFits attemptId world)
    (condition : world.flush = none → world.NamesInOrder) :
    Advances attemptId world world.startFlush := by
  unfold startFlush
  split
  · exact .inl rfl
  · next idle =>
      have listed := (listPending_pairwise_iff fits.names).mpr (condition idle)
      rw [fits.attempt] at listed
      apply Or.inr
      apply Redelivery.Step.list
      · exact (listPending_perm _).nodup_iff.mpr fits.names.of_map
      · intro record member
        exact (listPending_perm _).mem_iff.mp member
      · intro record member
        exact (listPending_perm _).mem_iff.mpr member
      · exact listed

theorem send_advances (reaches : Bool) : Advances attemptId world (world.send reaches) := by
  unfold send
  split
  · next record records flushing =>
      have listing : world.replay.listing = record :: records := by
        rw [replay, flushing]
        rfl
      cases reaches with
      | false =>
          apply Or.inl
          rw [replay, replay, flushing]
          rfl
      | true =>
          apply Or.inr
          have step : Redelivery.Step (MayFollow attemptId) world.replay _ :=
            .receive record records listing
          simp only [replay, flushing, Option.map_some, Option.getD_some] at step ⊢
          exact step
  · exact .inl rfl

/-- A file is the only one of its name. -/
theorem removeRecord_pending (fits : WorldFits attemptId world) {record : SpoolRecord}
    (stored : record ∈ world.spool.pending) :
    (world.spool.removeRecord record).pending =
      world.spool.pending.filter fun other => other ≠ record := by
  apply List.filter_congr
  intro other member
  have same : other.name ≠ record.name ↔ other ≠ record :=
    not_congr ⟨fun names => List.inj_on_of_nodup_map fits.names member stored names,
      congrArg SpoolRecord.name⟩
  simp only [same]

theorem settled_advances (fits : WorldFits attemptId world)
    (ordered : world.replay.Ordered (MayFollow attemptId)) {record : SpoolRecord}
    {records : List SpoolRecord} {sent : Option Bool}
    (flushing : world.flush = some ⟨record :: records, sent⟩) {spool : TelemetrySpool}
    (removed : spool.pending = (world.spool.removeRecord record).pending) :
    Advances attemptId world { world with spool, flush := some ⟨records, none⟩ } := by
  have listing : world.replay.listing = record :: records := by
    rw [replay, flushing]
    rfl
  have stored : record ∈ world.spool.pending := by
    apply ordered.stored record
    rw [listing]
    exact List.mem_cons_self
  apply Or.inr
  have step : Redelivery.Step (MayFollow attemptId) world.replay _ :=
    .confirm record records listing
  rw [removeRecord_pending fits stored] at removed
  simp only [replay, flushing, removed, Option.map_some, Option.getD_some] at step ⊢
  exact step

theorem misread_advances (fits : WorldFits attemptId world)
    (ordered : world.replay.Ordered (MayFollow attemptId)) :
    Advances attemptId world world.misread := by
  unfold misread
  split
  · next record records flushing => exact settled_advances fits ordered flushing rfl
  · exact .inl rfl

theorem answer_advances (fits : WorldFits attemptId world)
    (ordered : world.replay.Ordered (MayFollow attemptId)) (outcome : SendOutcome) :
    Advances attemptId world (world.answer outcome) := by
  unfold answer
  split
  · next record records reached flushing =>
      split
      · exact settled_advances fits ordered flushing rfl
      · exact settled_advances fits ordered flushing rfl
      · exact .inr .stop
      · exact .inl rfl
  · exact .inl rfl

end TelemetryWorld

open TelemetryWorld in
theorem stepTelemetry_advances {attemptId : String} (settings : SpoolSettings)
    (text : SessionText) {world : TelemetryWorld} (fits : WorldFits attemptId world)
    (ordered : world.replay.Ordered (MayFollow attemptId)) (step : TelemetryStep)
    (condition : step = .flush → world.flush = none → world.NamesInOrder) :
    Advances attemptId world (stepTelemetry settings text world step) := by
  cases step with
  | recordTrainingEvent event now => exact record_advances _
  | recordStageCompleted stage stageOrdinal createdPathCount now => exact record_advances _
  | recordSystemSnapshot snapshot now => exact record_advances _
  | write => exact write_advances settings fits
  | writeOther record => exact writeOther_advances settings fits record
  | finishTraining =>
      rw [stepTelemetry]
      split
      · exact .inl rfl
      · exact .inl rfl
  | watermarks =>
      rw [stepTelemetry]
      split
      · exact .inl rfl
      · exact .inl rfl
  | flush => exact startFlush_advances fits (condition rfl)
  | misread => exact misread_advances fits ordered
  | send reaches => exact send_advances reaches
  | answer outcome => exact answer_advances fits ordered outcome
  | abandonFlush => exact .inr .stop

/-! ## Runs in order -/

namespace TelemetryWorld

def start (jobId attemptId leaseId : String) (maxSourceEvents : Nat) : TelemetryWorld where
  session :=
    { jobId
      attemptId
      leaseId
      maxSourceEvents
      nextLogSequence := 0
      nextMetricSequence := 0
      systemSnapshotOrdinal := 0
      sourceEventKeys := []
      logSources := []
      metricSources := []
      pendingEpoch := none
      trainingActive := true
      terminalWatermarks := none }
  recording := none
  spool := .start
  flush := none
  received := []

theorem start_fits (jobId attemptId leaseId : String) (maxSourceEvents : Nat) :
    WorldFits attemptId (start jobId attemptId leaseId maxSourceEvents) where
  attempt := rfl
  recording := by
    intro recording held
    cases held
  stored := by
    intro record member
    cases member
  listed := by
    intro flush flushing
    cases flushing
  received := by
    intro record member
    cases member
  names := .nil

/-- A flush that starts in this state finds the names in order. -/
def FlushesInOrder (world : TelemetryWorld) (step : TelemetryStep) : Prop :=
  step = .flush → world.flush = none → world.NamesInOrder

def completeFlush (world : TelemetryWorld) : List TelemetryStep :=
  .flush :: world.spool.listPending.flatMap fun _ => [.send true, .answer .accepted]

end TelemetryWorld

section

variable (settings : SpoolSettings) (text : SessionText)

open TelemetryWorld

theorem run_deliver (records : List SpoolRecord) {world : TelemetryWorld}
    (flushing : world.flush = some ⟨records, none⟩) :
    (run (stepTelemetry settings text) world
      (records.flatMap fun _ => [.send true, .answer .accepted])).received =
        world.received ++ records := by
  induction records generalizing world with
  | nil => exact (List.append_nil _).symm
  | cons record records induction =>
      have sent : world.send true =
          { world with
            flush := some ⟨record :: records, some true⟩
            received := world.received ++ [record] } := by
        rw [send, flushing]
        rfl
      rw [List.flatMap_cons, run_append, run_cons, run_cons, run_nil, stepTelemetry, sent,
        stepTelemetry, induction]
      · exact List.append_assoc ..
      · rfl

theorem run_completeFlush {world : TelemetryWorld} (idle : world.flush = none) :
    (run (stepTelemetry settings text) world world.completeFlush).received =
      world.received ++ world.spool.listPending := by
  have started : world.startFlush = { world with flush := some ⟨world.spool.listPending, none⟩ } := by
    rw [startFlush, idle]
  rw [completeFlush, run_cons, stepTelemetry, started, run_deliver settings text _ rfl]

theorem run_worldFits (jobId attemptId leaseId : String) (maxSourceEvents : Nat)
    (steps : List TelemetryStep) :
    WorldFits attemptId (run (stepTelemetry settings text)
      (start jobId attemptId leaseId maxSourceEvents) steps) :=
  run_preserves (WorldFits attemptId)
    (fun _ step fits => stepTelemetry_fits settings text fits step)
    (start_fits jobId attemptId leaseId maxSourceEvents) steps

/-- While every flush finds the names in order, the replay is ordered. -/
theorem run_ordered {jobId attemptId leaseId : String} {maxSourceEvents : Nat}
    {steps : List TelemetryStep}
    (along : Along (stepTelemetry settings text) FlushesInOrder
      (start jobId attemptId leaseId maxSourceEvents) steps) :
    (run (stepTelemetry settings text) (start jobId attemptId leaseId maxSourceEvents)
      steps).replay.Ordered (MayFollow attemptId) := by
  have both := along.withInvariant (WorldFits attemptId)
    (fun _ step fits => stepTelemetry_fits settings text fits step)
    (start_fits jobId attemptId leaseId maxSourceEvents)
  apply run_preserves_along (fun world => world.replay.Ordered (MayFollow attemptId)) _ _ both
  · intro world step condition ordered
    rcases stepTelemetry_advances settings text condition.2 ordered step condition.1 with
      same | advanced
    · rw [same]
      exact ordered
    · exact ordered.step (fun _ _ _ _ => .inl rfl) advanced
  · exact Redelivery.Ordered.empty _ _

/-- Logs and metrics reach the Manager in the order of their sequences as long as every flush
finds the pending file names in that order, and the first flush that does not breaks it when all of
it gets through. -/
theorem delivery_inOrder_iff (jobId attemptId leaseId : String) (maxSourceEvents : Nat)
    (steps : List TelemetryStep)
    (along : Along (stepTelemetry settings text) FlushesInOrder
      (start jobId attemptId leaseId maxSourceEvents) steps) :
    let world := run (stepTelemetry settings text)
      (start jobId attemptId leaseId maxSourceEvents) steps
    InOrder attemptId world.received ∧
      (world.flush = none →
        (InOrder attemptId
          (run (stepTelemetry settings text) world world.completeFlush).received ↔
            world.NamesInOrder)) := by
  have fits := run_worldFits settings text jobId attemptId leaseId maxSourceEvents steps
  have ordered := run_ordered settings text along
  generalize run (stepTelemetry settings text)
    (start jobId attemptId leaseId maxSourceEvents) steps = world at fits ordered ⊢
  have entries (record : SpoolRecord) (numbered : Numbered world.session record)
      (own : record.attemptId = attemptId) : record.sequences.Pairwise (· < ·) :=
    numbered.increasing (own.trans fits.attempt.symm)
  constructor
  · constructor
    · exact ordered.received
    · intro record member
      exact entries record (fits.received record member)
  · intro idle
    have listed := listPending_pairwise_iff fits.names
    rw [fits.attempt] at listed
    rw [run_completeFlush settings text idle, ← listed]
    constructor
    · intro inOrder
      exact (List.pairwise_append.mp inOrder.batches).2.1
    · intro pairwise
      constructor
      · apply List.pairwise_append.mpr
        apply And.intro ordered.received
        apply And.intro pairwise
        intro record received other pending
        exact ordered.ahead record received other (List.mem_mergeSort.mp pending)
      · intro record member
        rcases List.mem_append.mp member with received | pending
        · exact entries record (fits.received record received)
        · exact entries record (fits.stored record (List.mem_mergeSort.mp pending))

end

/-! ## A reversed pair -/

def defaultSpoolSettings : SpoolSettings where
  maxBytes := 256 * 1024 ^ 2
  maxRecordBytes := 2 * 1024 ^ 2
  encodedBytes := fun _ => 1000

def zeroText : SessionText where
  normalized := id
  sanitized := id
  hex := fun _ => "0x0.0p+0"
  float := fun _ => some .zero
  one := ⟨false, 1, 0, .inr ⟨by decide, by decide⟩⟩
  zero := .zero

def emptySnapshot : TelemetryStep := .recordSystemSnapshot ⟨[], 0, false⟩ 0

def snapshotWorld : TelemetryWorld :=
  .start "00000000-0000-4000-8000-000000000001" "00000000-0000-4000-8000-000000000000"
    "00000000-0000-4000-8000-000000000002" 250000

def snapshotEntries (first : Nat) : List MetricEntry :=
  [⟨first, "system.gpu.count", .zero, none, none, 0⟩,
    ⟨first + 1, "system.gpu.telemetry_available", .zero, none, none, 0⟩,
    ⟨first + 2, "system.disk_free_bytes", .zero, none, none, 0⟩]

def snapshotBatch (ordinal first : Nat) : SpoolRecord :=
  snapshotWorld.session.metricBatch ["system:" ++ toString ordinal] (snapshotEntries first)

theorem snapshotBatch_zero : (snapshotBatch 0 0).name =
    "metric-d29f7cd736fe325f3c437a020d92ae4f38bf44339f8a840a5bca30c4d0e21aae.json" := by
  decide +kernel

theorem snapshotBatch_one : (snapshotBatch 1 3).name =
    "metric-ba7bb8b7c71918cc579a9095bdd33c0abbc0cba3b31d33294234ee8061149a07.json" := by
  decide +kernel

/-- The second snapshot comes before the first in a listing. -/
theorem snapshots_reversed : (snapshotBatch 1 3).name < (snapshotBatch 0 0).name := by
  rw [snapshotBatch_zero, snapshotBatch_one]
  decide +kernel

/-- After so many snapshots, of which some are pending. -/
def snapshotsTaken (count : Nat) (pending : List SpoolRecord) : TelemetryWorld :=
  { snapshotWorld with
    session :=
      { snapshotWorld.session with
        systemSnapshotOrdinal := count
        nextMetricSequence := 3 * count }
    spool := ⟨pending, []⟩ }

theorem emptySnapshot_recorded {count : Nat} (few : count < 250000)
    (pending : List SpoolRecord) :
    stepTelemetry defaultSpoolSettings zeroText (snapshotsTaken count pending) emptySnapshot =
      { snapshotsTaken count pending with
        recording := some ⟨none, some (snapshotBatch count (3 * count)), none, count + 1⟩ } := by
  have outcome : (snapshotsTaken count pending).session.recordSystemSnapshot zeroText
      ⟨[], 0, false⟩ 0 = ((snapshotsTaken count pending).session,
        .ok ⟨none, some (snapshotBatch count (3 * count)), none, count + 1⟩) := by
    have below : ¬(snapshotsTaken count pending).session.maxSourceEvents ≤
        (snapshotsTaken count pending).session.systemSnapshotOrdinal := few.not_ge
    have values : AttemptTelemetrySession.systemValues zeroText ⟨[], 0, false⟩ =
        [("system.gpu.count", some .zero), ("system.gpu.telemetry_available", some .zero),
          ("system.disk_free_bytes", some .zero)] := by
      rw [AttemptTelemetrySession.systemValues, List.mergeSort_nil]
      rfl
    have distinct : ¬¬(([] : List GpuSnapshot).map GpuSnapshot.index).Nodup :=
      not_not_intro List.nodup_nil
    have open_ : ¬(snapshotsTaken count pending).session.terminalWatermarks.isSome = true :=
      Bool.false_ne_true
    rw [AttemptTelemetrySession.recordSystemSnapshot, values]
    simp only
    rw [if_neg distinct]
    simp only [List.mapM_cons, List.mapM_nil, Option.map_some, Option.pure_def, Option.bind_eq_bind,
      Option.bind_some]
    rw [if_neg open_, if_neg below]
    rfl
  rw [emptySnapshot, stepTelemetry, TelemetryWorld.record]
  have free : (snapshotsTaken count pending).recording = none := rfl
  rw [free]
  simp only
  rw [outcome]

theorem snapshot_stored (count : Nat) (few : count < 250000) (pending : List SpoolRecord)
    (room : pending.length < 2)
    (fresh : ∀ other ∈ pending, other.name ≠ (snapshotBatch count (3 * count)).name) :
    run (stepTelemetry defaultSpoolSettings zeroText) (snapshotsTaken count pending)
      [emptySnapshot, .write] =
        snapshotsTaken (count + 1) (pending ++ [snapshotBatch count (3 * count)]) := by
  have enqueued : TelemetrySpool.enqueue defaultSpoolSettings ⟨pending, []⟩
      (snapshotBatch count (3 * count)) =
        .ok ⟨pending ++ [snapshotBatch count (3 * count)], []⟩ := by
    apply enqueue_of_fresh
    · have safe : validateJobId "00000000-0000-4000-8000-000000000001" = .ok () := by
        decide +kernel
      exact safe
    · exact Nat.le_of_ble_eq_true rfl
    · have sizes : (pending.map defaultSpoolSettings.encodedBytes).sum = pending.length * 1000 := by
        rw [show defaultSpoolSettings.encodedBytes = fun _ => 1000 from rfl, List.map_const',
          List.sum_replicate_nat]
      have total : pending.length * 1000 + 1000 ≤ 256 * 1024 ^ 2 := by omega
      rw [sizes]
      exact total
    · exact fresh
  rw [run_cons, emptySnapshot_recorded few, run_cons, run_nil, stepTelemetry, TelemetryWorld.write]
  simp only
  have spool : (snapshotsTaken count pending).spool = ⟨pending, []⟩ := rfl
  rw [spool, enqueued]
  rfl

open TelemetryWorld

theorem run_oneSnapshot :
    run (stepTelemetry defaultSpoolSettings zeroText) snapshotWorld [emptySnapshot, .write] =
      snapshotsTaken 1 [snapshotBatch 0 0] := by
  apply snapshot_stored 0 (by omega) [] (by decide)
  intro other member
  cases member

theorem delivery_inOrder_iff_oneSnapshot :
    InOrder snapshotWorld.session.attemptId
      (run (stepTelemetry defaultSpoolSettings zeroText) (snapshotsTaken 1 [snapshotBatch 0 0])
        (snapshotsTaken 1 [snapshotBatch 0 0]).completeFlush).received := by
  have along : Along (stepTelemetry defaultSpoolSettings zeroText) FlushesInOrder snapshotWorld
      [emptySnapshot, .write] := by
    apply And.intro
    · intro flush
      cases flush
    · apply And.intro _ trivial
      intro flush
      cases flush
  have exact := delivery_inOrder_iff defaultSpoolSettings zeroText _ _ _ _ _ along
  simp only at exact
  rw [← snapshotWorld, run_oneSnapshot] at exact
  apply (exact.2 rfl).mpr
  intro first firstMember second secondMember lower
  rw [List.mem_singleton.mp firstMember, List.mem_singleton.mp secondMember] at lower
  exact absurd lower (lt_irrefl _)

def twoSnapshots : TelemetryWorld :=
  snapshotsTaken 2 [snapshotBatch 0 0, snapshotBatch 1 3]

theorem run_twoSnapshots (steps : List TelemetryStep) :
    run (stepTelemetry defaultSpoolSettings zeroText) snapshotWorld
      ([emptySnapshot, .write] ++ ([emptySnapshot, .write] ++ steps)) =
        run (stepTelemetry defaultSpoolSettings zeroText) twoSnapshots steps := by
  have two : run (stepTelemetry defaultSpoolSettings zeroText)
      (snapshotsTaken 1 [snapshotBatch 0 0]) [emptySnapshot, .write] = twoSnapshots := by
    apply snapshot_stored 1 (by omega) [snapshotBatch 0 0] (by decide)
    intro other member same
    rw [List.mem_singleton.mp member] at same
    exact snapshots_reversed.ne same.symm
  rw [run_append, run_oneSnapshot, run_append, two]

theorem twoSnapshots_names : (twoSnapshots.spool.pending.map SpoolRecord.name).Nodup := by
  apply List.nodup_cons.mpr
  apply And.intro _ (List.nodup_singleton _)
  intro member
  exact snapshots_reversed.ne (List.mem_singleton.mp member).symm

def reversedSteps : List TelemetryStep :=
  [emptySnapshot, .write, emptySnapshot, .write, .flush, .send true, .answer .accepted,
    .send true, .answer .accepted]

theorem received_reversed :
    (run (stepTelemetry defaultSpoolSettings zeroText) snapshotWorld reversedSteps).received =
      twoSnapshots.spool.listPending := by
  have steps : reversedSteps = [emptySnapshot, .write] ++ ([emptySnapshot, .write] ++
      twoSnapshots.completeFlush) := by
    rcases List.length_eq_two.mp (listPending_perm twoSnapshots.spool).length_eq with
      ⟨first, second, listed⟩
    rw [completeFlush, listed]
    rfl
  have delivered : (run (stepTelemetry defaultSpoolSettings zeroText) twoSnapshots
      twoSnapshots.completeFlush).received = [] ++ twoSnapshots.spool.listPending :=
    run_completeFlush _ _ rfl
  rw [steps, run_twoSnapshots, delivered, List.nil_append]

theorem twoSnapshots_reversed : ¬twoSnapshots.NamesInOrder := by
  -- The kinds are compared through a third: comparing the batches would hash them again.
  have kind (ordinal first : Nat) : (snapshotBatch ordinal first).kind = .metric := rfl
  intro inOrder
  rcases inOrder (snapshotBatch 1 3) (List.mem_cons_of_mem _ List.mem_cons_self)
    (snapshotBatch 0 0) List.mem_cons_self snapshots_reversed rfl rfl
      ((kind 1 3).trans (kind 0 0).symm) with same | lower
  · exact snapshots_reversed.ne (congrArg SpoolRecord.name same)
  · have absurdity : 3 < 0 := lower 3 List.mem_cons_self 0 List.mem_cons_self
    exact absurd absurdity (by decide)

/-- The Manager receives the metrics 3 to 5 before the metrics 0 to 2. -/
theorem delivery_reversed :
    ¬InOrder snapshotWorld.session.attemptId
      (run (stepTelemetry defaultSpoolSettings zeroText) snapshotWorld reversedSteps).received := by
  intro inOrder
  have batches := inOrder.batches
  rw [received_reversed] at batches
  exact twoSnapshots_reversed ((listPending_pairwise_iff twoSnapshots_names).mp batches)

end RvcOrchestrator.Worker

import RvcOrchestrator.Foundation.CursorReader
import RvcOrchestrator.Manager.Telemetry
import Mathlib.Data.Prod.Lex

/-! # Reading the logs of a Job

A page of logs, and a reader that follows the cursors it is given while ingests
and all other requests go on.
-/

namespace RvcOrchestrator.Manager

open RvcOrchestrator.Foundation RvcOrchestrator.Contracts
open Assignment (Sound AttemptKept)

/-! ## Pages -/

structure LogCursor where
  attemptNumber : Nat
  sequence : Nat
  logId : Nat
deriving DecidableEq, Repr

structure JobLogFilters where
  attemptId : Option AttemptId := none
  sequenceGte : Option Nat := none
  sequenceLte : Option Nat := none
  occurredAtGte : Option Time := none
  occurredAtLte : Option Time := none

structure JobLogRecord where
  log : JobLog
  attemptNumber : Nat
deriving DecidableEq

def JobLogRecord.cursor (record : JobLogRecord) : LogCursor :=
  ⟨record.attemptNumber, record.log.sequence, record.log.id⟩

def joinedLogs (ledger : Ledger) : List JobLogRecord :=
  ledger.logs.filterMap fun log =>
    (ledger.attempts.find? log.attemptId).map fun attempt => ⟨log, attempt.attemptNumber⟩

def filterConditions (jobId : JobId) (filters : JobLogFilters) (record : JobLogRecord) : Bool :=
  record.log.jobId = jobId &&
    filters.attemptId.all (fun attemptId => record.log.attemptId = attemptId) &&
    filters.sequenceGte.all (fun bound => bound ≤ record.log.sequence) &&
    filters.sequenceLte.all (fun bound => record.log.sequence ≤ bound) &&
    filters.occurredAtGte.all (fun bound => bound ≤ record.log.occurredAt) &&
    filters.occurredAtLte.all (fun bound => record.log.occurredAt ≤ bound)

def afterCondition (cursor : LogCursor) (record : JobLogRecord) : Bool :=
  cursor.attemptNumber < record.attemptNumber ||
    (record.attemptNumber = cursor.attemptNumber && cursor.sequence < record.log.sequence) ||
    (record.attemptNumber = cursor.attemptNumber && record.log.sequence = cursor.sequence &&
      cursor.logId < record.log.id)

/-- The columns of `ORDER BY`, with their lexicographic order. -/
def LogCursor.position (cursor : LogCursor) : ℕ ×ₗ ℕ ×ₗ ℕ :=
  toLex (cursor.attemptNumber, toLex (cursor.sequence, cursor.logId))

def JobLogRecord.position (record : JobLogRecord) : ℕ ×ₗ ℕ ×ₗ ℕ :=
  record.cursor.position

def fetchJobLogs (ledger : Ledger) (jobId : JobId) (filters : JobLogFilters)
    (after : Option LogCursor) (limit : Nat) (tail : Bool) : List JobLogRecord × Bool :=
  let matching := (joinedLogs ledger).filter fun record =>
    filterConditions jobId filters record && after.all fun cursor => afterCondition cursor record
  let ordered :=
    if tail then matching.insertionSort fun left right => right.position ≤ left.position
    else matching.insertionSort fun left right => left.position ≤ right.position
  let rows := ordered.take (limit + 1)
  let records := rows.take limit
  (if tail then records.reverse else records, decide (limit < rows.length))

/-! ## The stream -/

/-- The setting `log_stream_batch_limit`. -/
abbrev LogStreamBatchLimit := { limit : Nat // 1 ≤ limit ∧ limit ≤ 500 }

/-- The constraints of the log table. -/
structure Storable (ledger : Ledger) (logs : List JobLog) : Prop where
  ids : ((ledger.logs ++ logs).map JobLog.id).Nodup
  sequences : ((ledger.logs ++ logs).map fun log => (log.attemptId, log.sequence)).Nodup
  attempts : ∀ log ∈ logs, (ledger.attempts.find? log.attemptId).any
    (fun attempt => attempt.jobId = log.jobId) = true

instance (ledger : Ledger) (logs : List JobLog) : Decidable (Storable ledger logs) :=
  decidable_of_iff (_ ∧ _ ∧ _)
    ⟨fun ⟨ids, sequences, attempts⟩ => ⟨ids, sequences, attempts⟩,
      fun storable => ⟨storable.ids, storable.sequences, storable.attempts⟩⟩

structure StreamState where
  ledger : Ledger
  cursor : Option LogCursor
  received : List JobLogRecord

def StreamState.initial : StreamState where
  ledger := .empty
  cursor := none
  received := []

inductive StreamEvent where
  | operate (operation : Operation)
  /-- An ingest commits these rows, in whatever order they come. -/
  | ingest (logs : List JobLog)
  /-- A poll of the stream, of which this many records are sent before the
  connection is lost. -/
  | poll (sent : Nat)

section

variable (platform : Platform) (settings : Settings) (jobId : JobId) (filters : JobLogFilters)
  (batchLimit : LogStreamBatchLimit)

def streamStep (state : StreamState) : StreamEvent → StreamState
  | .operate operation =>
      { state with ledger := perform platform settings state.ledger operation }
  | .ingest logs =>
      if Storable state.ledger logs then
        { state with ledger := { state.ledger with logs := state.ledger.logs ++ logs } }
      else state
  | .poll sent =>
      let records :=
        (fetchJobLogs state.ledger jobId filters state.cursor batchLimit.1 false).1.take sent
      { state with
        cursor :=
          match records.getLast? with
          | none => state.cursor
          | some last => some last.cursor
        received := state.received ++ records }

end

/-! ## A page is a read behind a cursor -/

theorem afterCondition_iff (cursor : LogCursor) (record : JobLogRecord) :
    afterCondition cursor record = true ↔ cursor.position < record.position := by
  simp only [afterCondition, JobLogRecord.position, LogCursor.position, JobLogRecord.cursor,
    Prod.Lex.lt_iff, ofLex_toLex, Bool.or_eq_true, Bool.and_eq_true, decide_eq_true_eq]
  omega

def shownLogs (jobId : JobId) (filters : JobLogFilters) (ledger : Ledger) : List JobLogRecord :=
  (joinedLogs ledger).filter (filterConditions jobId filters)

theorem beyond_iff (cursor : Option LogCursor) (record : JobLogRecord) :
    Beyond JobLogRecord.position (cursor.map LogCursor.position) record ↔
      (cursor.all fun cursor => afterCondition cursor record) = true := by
  cases cursor with
  | none => simp [Beyond]
  | some cursor =>
      rw [Option.all_some, afterCondition_iff]
      rfl

theorem fetchJobLogs_eq (ledger : Ledger) (jobId : JobId) (filters : JobLogFilters)
    (after : Option LogCursor) (limit : Nat) :
    (fetchJobLogs ledger jobId filters after limit false).1 =
      (pending JobLogRecord.position (shownLogs jobId filters ledger)
        (after.map LogCursor.position)).take limit := by
  have matching : ((joinedLogs ledger).filter fun record => filterConditions jobId filters record &&
      after.all fun cursor => afterCondition cursor record) =
        (shownLogs jobId filters ledger).filter fun record =>
          Beyond JobLogRecord.position (after.map LogCursor.position) record := by
    rw [shownLogs, List.filter_filter]
    apply List.filter_congr
    intro record _
    rw [Bool.and_comm, Bool.eq_iff_iff, Bool.and_eq_true, Bool.and_eq_true, decide_eq_true_eq,
      beyond_iff]
  simp only [fetchJobLogs, matching, Bool.false_eq_true, if_false, List.take_take, pending]
  rw [Nat.min_eq_left (Nat.le_succ limit)]

/-! ## The reader -/

def StreamState.reader (state : StreamState) : Reader JobLogRecord (ℕ ×ₗ ℕ ×ₗ ℕ) where
  cursor := state.cursor.map LogCursor.position
  received := state.received

section

variable {platform : Platform} {settings : Settings} {jobId : JobId} {filters : JobLogFilters}
  {batchLimit : LogStreamBatchLimit}

theorem reader_poll (state : StreamState) (sent : Nat) :
    (streamStep platform settings jobId filters batchLimit state (.poll sent)).reader =
      state.reader.read JobLogRecord.position (shownLogs jobId filters state.ledger)
        (min sent batchLimit.1) := by
  simp only [streamStep, StreamState.reader, Reader.read, Reader.receive, fetchJobLogs_eq,
    List.take_take, Reader.mk.injEq, and_true]
  split
  · next none => simp only [none]
  · next last found =>
      simp only [found]
      rfl

/-- What the stream relies on: the assignment ledger is sound, and the log table
keeps its constraints. -/
structure Streamed (jobId : JobId) (filters : JobLogFilters) (state : StreamState) : Prop where
  sound : Sound state.ledger.view
  ids : (state.ledger.logs.map JobLog.id).Nodup
  owned : ∀ log ∈ state.ledger.logs, ∃ attempt,
    state.ledger.attempts.find? log.attemptId = some attempt
  follows : Follows JobLogRecord.position (shownLogs jobId filters state.ledger) state.reader

theorem Streamed.initial : Streamed jobId filters .initial where
  sound := Sound.empty
  ids := List.nodup_nil
  owned := by simp [StreamState.initial, Ledger.empty]
  follows := Follows.start

/-- The records of logs with their attempts do not depend on anything else. -/
theorem joinedLogs_perform {ledger : Ledger} (sound : Sound ledger.view)
    (owned : ∀ log ∈ ledger.logs, ∃ attempt, ledger.attempts.find? log.attemptId = some attempt)
    (operation : Operation) :
    joinedLogs (perform platform settings ledger operation) = joinedLogs ledger := by
  have kept := perform_attemptKept platform settings sound operation
  rw [joinedLogs, (perform_sameTelemetry platform settings ledger operation).logs, joinedLogs]
  apply List.filterMap_congr
  intro log member
  rcases owned log member with ⟨attempt, found⟩
  rcases kept _ _ (attemptView found) with ⟨state, stateFound, -, -, number⟩
  rcases find?_map_eq_some stateFound with ⟨later, laterFound, rfl⟩
  rw [laterFound, found, Option.map_some, Option.map_some,
    show later.attemptNumber = attempt.attemptNumber from number]

def addedLogs (jobId : JobId) (filters : JobLogFilters) (ledger : Ledger) (logs : List JobLog) :
    List JobLogRecord :=
  shownLogs jobId filters { ledger with logs := logs }

theorem shownLogs_append (ledger : Ledger) (logs : List JobLog) :
    shownLogs jobId filters { ledger with logs := ledger.logs ++ logs } =
      shownLogs jobId filters ledger ++ addedLogs jobId filters ledger logs := by
  simp only [shownLogs, addedLogs, joinedLogs, List.filterMap_append, List.filter_append]

theorem sublist_joinedLogs (ledger : Ledger) :
    ((joinedLogs ledger).map JobLogRecord.log).Sublist ledger.logs := by
  unfold joinedLogs
  induction ledger.logs with
  | nil => exact List.Sublist.slnil
  | cons log logs induction =>
      rw [List.filterMap_cons]
      split
      · exact induction.cons log
      · next record joined =>
          rcases Option.map_eq_some_iff.mp joined with ⟨attempt, -, rfl⟩
          exact induction.cons_cons log

/-- Identifiers are unique, so positions are. -/
theorem nodup_position_shownLogs (jobId : JobId) (filters : JobLogFilters) {ledger : Ledger}
    (ids : (ledger.logs.map JobLog.id).Nodup) :
    ((shownLogs jobId filters ledger).map JobLogRecord.position).Nodup := by
  have sublist : ((shownLogs jobId filters ledger).map fun record => record.log.id).Sublist
      (ledger.logs.map JobLog.id) := by
    have joined := (sublist_joinedLogs ledger).map JobLog.id
    rw [List.map_map] at joined
    exact (List.filter_sublist.map _).trans joined
  have apart := sublist.nodup ids
  refine List.Nodup.of_map (fun place => (ofLex (ofLex place).2).2) ?_
  rw [List.map_map]
  exact apart

theorem Streamed.step {state : StreamState} (streamed : Streamed jobId filters state)
    (event : StreamEvent) :
    Streamed jobId filters (streamStep platform settings jobId filters batchLimit state event) := by
  cases event with
  | operate operation =>
      have kept := perform_attemptKept platform settings streamed.sound operation
      have logs := (perform_sameTelemetry platform settings state.ledger operation).logs
      constructor
      case sound => exact (perform_does platform settings operation streamed.sound).sound streamed.sound
      case ids =>
        simp only [streamStep, logs]
        exact streamed.ids
      case owned =>
        simp only [streamStep, logs]
        intro log member
        rcases streamed.owned log member with ⟨attempt, found⟩
        rcases kept _ _ (attemptView found) with ⟨later, laterFound, -⟩
        rcases find?_map_eq_some laterFound with ⟨row, rowFound, -⟩
        exact ⟨row, rowFound⟩
      case follows =>
        simp only [streamStep, shownLogs, joinedLogs_perform streamed.sound streamed.owned]
        exact streamed.follows
  | ingest logs =>
      simp only [streamStep]
      split
      · next storable =>
          constructor
          case sound => exact streamed.sound
          case ids => exact storable.ids
          case owned =>
            intro log member
            rcases List.mem_append.mp member with stored | added
            · exact streamed.owned log stored
            · have found := storable.attempts log added
              rw [Option.any_eq_true] at found
              rcases found with ⟨attempt, found, -⟩
              exact ⟨attempt, found⟩
          case follows =>
            have distinct : ((shownLogs jobId filters { state.ledger with
                logs := state.ledger.logs ++ logs }).map JobLogRecord.position).Nodup :=
              nodup_position_shownLogs jobId filters storable.ids
            rw [shownLogs_append] at distinct ⊢
            exact streamed.follows.add distinct
      · exact streamed
  | poll sent =>
      refine ⟨streamed.sound, streamed.ids, streamed.owned, ?_⟩
      rw [reader_poll]
      exact streamed.follows.read _

/-! ## Completeness -/

/-- An ingest stores nothing that the reader's cursor has passed. -/
def AheadOfReader (jobId : JobId) (filters : JobLogFilters) (state : StreamState) :
    StreamEvent → Prop
  | .ingest logs => Storable state.ledger logs →
      ∀ record ∈ addedLogs jobId filters state.ledger logs,
        (state.cursor.all fun cursor => afterCondition cursor record) = true
  | _ => True

/-- Only an ingest behind the cursor makes the reader miss something, and nothing
makes up for it. -/
theorem Streamed.caughtUp_step_iff {state : StreamState} (streamed : Streamed jobId filters state)
    (event : StreamEvent) :
    CaughtUp JobLogRecord.position
        (shownLogs jobId filters
          (streamStep platform settings jobId filters batchLimit state event).ledger)
        (streamStep platform settings jobId filters batchLimit state event).reader ↔
      CaughtUp JobLogRecord.position (shownLogs jobId filters state.ledger) state.reader ∧
        AheadOfReader jobId filters state event := by
  cases event with
  | operate operation =>
      simp only [streamStep, shownLogs, joinedLogs_perform streamed.sound streamed.owned,
        AheadOfReader, and_true]
      rfl
  | ingest logs =>
      by_cases storable : Storable state.ledger logs
      · have distinct : ((shownLogs jobId filters { state.ledger with
            logs := state.ledger.logs ++ logs }).map JobLogRecord.position).Nodup :=
          nodup_position_shownLogs jobId filters storable.ids
        simp only [streamStep, if_pos storable]
        rw [shownLogs_append] at distinct ⊢
        rw [show StreamState.reader { state with ledger := { state.ledger with
          logs := state.ledger.logs ++ logs } } = state.reader from rfl,
          caughtUp_add_iff streamed.follows distinct]
        simp only [AheadOfReader, storable, true_implies, ← beyond_iff]
        rfl
      · have same : streamStep platform settings jobId filters batchLimit state (.ingest logs) =
            state := if_neg storable
        rw [same]
        simp only [AheadOfReader, storable, false_implies, and_true]
  | poll sent =>
      rw [reader_poll]
      simp only [AheadOfReader, and_true]
      exact caughtUp_read_iff streamed.follows _

def Drained (jobId : JobId) (filters : JobLogFilters) (batchLimit : LogStreamBatchLimit)
    (state : StreamState) : Prop :=
  (fetchJobLogs state.ledger jobId filters state.cursor batchLimit.1 false).1 = []

theorem pending_of_drained {state : StreamState} (drained : Drained jobId filters batchLimit state) :
    pending JobLogRecord.position (shownLogs jobId filters state.ledger) state.reader.cursor =
      [] := by
  rw [Drained, fetchJobLogs_eq, List.take_eq_nil_iff] at drained
  have positive := batchLimit.2.1
  exact drained.resolve_left (by omega)

theorem streamed_run (platform : Platform) (settings : Settings) (jobId : JobId)
    (filters : JobLogFilters) (batchLimit : LogStreamBatchLimit) (events : List StreamEvent) :
    Streamed jobId filters
      (run (streamStep platform settings jobId filters batchLimit) .initial events) :=
  run_preserves (Streamed jobId filters) (fun _ event streamed => streamed.step event)
    Streamed.initial events

/-- In every run, however ingests, polls and other requests interleave, a reader that
finds nothing more has been sent every log of the Job exactly once, if and only if
every ingest stored its logs ahead of the reader's cursor. -/
theorem log_stream_complete_iff (platform : Platform) (settings : Settings) (jobId : JobId)
    (filters : JobLogFilters) (batchLimit : LogStreamBatchLimit) (events : List StreamEvent)
    (drained : Drained jobId filters batchLimit
      (run (streamStep platform settings jobId filters batchLimit) .initial events)) :
    let state := run (streamStep platform settings jobId filters batchLimit) .initial events
    state.received.Perm (shownLogs jobId filters state.ledger) ↔
      Along (streamStep platform settings jobId filters batchLimit)
        (AheadOfReader jobId filters) .initial events := by
  intro state
  have streamed : Streamed jobId filters state :=
    streamed_run platform settings jobId filters batchLimit events
  let complete (state : StreamState) : Prop :=
    CaughtUp JobLogRecord.position (shownLogs jobId filters state.ledger) state.reader
  have exact : complete state ↔ complete .initial ∧
      Along (streamStep platform settings jobId filters batchLimit)
        (AheadOfReader jobId filters) .initial events :=
    run_iff_along (Streamed jobId filters) complete (fun _ event streamed => streamed.step event)
      (fun _ event streamed => streamed.caughtUp_step_iff event) Streamed.initial events
  rw [show state.received = state.reader.received from rfl,
    perm_iff_caughtUp streamed.follows (pending_of_drained drained)]
  apply exact.trans
  constructor
  · intro both
    exact both.2
  · intro along
    refine ⟨?_, along⟩
    intro record member
    cases member

/-! ## Two logs of one attempt -/

theorem run_operate (state : StreamState) (operations : List Operation) :
    run (streamStep platform settings jobId filters batchLimit) state
        (operations.map StreamEvent.operate) =
      { state with ledger := run (perform platform settings) state.ledger operations } := by
  induction operations generalizing state with
  | nil => rfl
  | cons operation operations induction =>
      rw [List.map_cons, run_cons, induction]
      rfl

theorem along_operate (state : StreamState) (operations : List Operation) :
    Along (streamStep platform settings jobId filters batchLimit) (AheadOfReader jobId filters)
      state (operations.map StreamEvent.operate) := by
  induction operations generalizing state with
  | nil => trivial
  | cons operation operations induction => exact ⟨trivial, induction _⟩

end

def sampleLog (sequence : Nat) : JobLog where
  id := sequence
  jobId := 1
  attemptId := 1
  sequence := sequence
  level := .info
  message := "epoch"
  fieldsJson := .object []
  occurredAt := 2000

def sampleRecord (sequence : Nat) : JobLogRecord := ⟨sampleLog sequence, 1⟩

def sampleBatchLimit : LogStreamBatchLimit := ⟨100, by decide⟩

/-- A Worker holds the Job, and the log of the given sequence is stored and read
before the other. -/
def twoLogs (first second : Nat) : List StreamEvent :=
  (arrival ++ [abandonment]).map .operate ++
    [.ingest [sampleLog first], .poll 100, .ingest [sampleLog second]]

def sampleStep : StreamState → StreamEvent → StreamState :=
  streamStep samplePlatform sampleSettings 1 {} sampleBatchLimit

def heldStream (sequences : List Nat) (cursor : Option LogCursor)
    (received : List JobLogRecord) : StreamState :=
  ⟨{ heldLedger with logs := sequences.map sampleLog }, cursor, received⟩

theorem joinedLogs_held (sequences : List Nat) :
    joinedLogs { heldLedger with logs := sequences.map sampleLog } =
      sequences.map sampleRecord := by
  rw [joinedLogs, List.filterMap_map, List.filterMap_eq_map_iff_forall_eq_some.mpr]
  intro sequence _
  simp only [Function.comp_apply, sampleLog, heldLedger_attempt]
  rfl

theorem map_sampleLog_append (sequences : List Nat) (sequence : Nat) :
    sequences.map sampleLog ++ [sampleLog sequence] = (sequences ++ [sequence]).map sampleLog := by
  rw [List.map_append, List.map_singleton]

theorem storable_held {sequences : List Nat} {sequence : Nat} (distinct : sequences.Nodup)
    (fresh : sequence ∉ sequences) :
    Storable { heldLedger with logs := sequences.map sampleLog } [sampleLog sequence] := by
  have appended : (sequences ++ [sequence]).Nodup := by
    rw [List.nodup_append_comm]
    exact List.nodup_cons.mpr ⟨fresh, distinct⟩
  constructor
  case ids =>
    simp only [map_sampleLog_append, List.map_map]
    exact appended.map fun _ _ same => same
  case sequences =>
    simp only [map_sampleLog_append, List.map_map]
    exact appended.map fun _ _ same => (Prod.mk.inj same).2
  case attempts =>
    intro log member
    rw [List.mem_singleton.mp member]
    simp only [sampleLog, heldLedger_attempt]
    rfl

theorem ingest_held {sequences : List Nat} {sequence : Nat} (distinct : sequences.Nodup)
    (fresh : sequence ∉ sequences) (cursor : Option LogCursor) (received : List JobLogRecord) :
    sampleStep (heldStream sequences cursor received) (.ingest [sampleLog sequence]) =
      heldStream (sequences ++ [sequence]) cursor received := by
  rw [sampleStep, streamStep, heldStream, if_pos (storable_held distinct fresh)]
  simp only [heldStream, map_sampleLog_append]

theorem run_held :
    run sampleStep .initial ((arrival ++ [abandonment]).map .operate) = heldStream [] none [] := by
  rw [sampleStep, run_operate, StreamState.initial, run_heldLedger]
  rfl

theorem ingest_first (first : Nat) :
    sampleStep (heldStream [] none []) (.ingest [sampleLog first]) = heldStream [first] none [] :=
  ingest_held List.nodup_nil List.not_mem_nil none []

theorem poll_first (first : Nat) :
    sampleStep (heldStream [first] none []) (.poll 100) =
      heldStream [first] (some (sampleRecord first).cursor) [sampleRecord first] := by
  have fetched : (fetchJobLogs (heldStream [first] none []).ledger 1 {} none 100 false).1 =
      [sampleRecord first] := by
    rw [fetchJobLogs_eq, shownLogs, heldStream, joinedLogs_held]
    rfl
  rw [sampleStep, streamStep]
  simp only [sampleBatchLimit]
  rw [show (heldStream [first] none []).cursor = none from rfl, fetched]
  rfl

theorem run_twoLogs {first second : Nat} (different : second ≠ first) :
    run sampleStep .initial (twoLogs first second) =
      heldStream [first, second] (some (sampleRecord first).cursor) [sampleRecord first] := by
  rw [twoLogs, run_append, run_held, run_cons, ingest_first, run_cons, poll_first, run_cons,
    run_nil, ingest_held (List.nodup_singleton first) (by simpa using different)]
  rfl

def inOrder : List StreamEvent := twoLogs 0 1 ++ [.poll 100]

theorem run_inOrder :
    run sampleStep .initial inOrder =
      heldStream [0, 1] (some (sampleRecord 1).cursor) [sampleRecord 0, sampleRecord 1] := by
  have fetched : (fetchJobLogs { heldLedger with logs := [0, 1].map sampleLog } 1 {}
      (some (sampleRecord 0).cursor) 100 false).1 = [sampleRecord 1] := by
    rw [fetchJobLogs_eq, shownLogs, joinedLogs_held]
    rfl
  rw [inOrder, run_append, run_twoLogs (by decide), run_cons, run_nil, sampleStep, streamStep]
  simp only [sampleBatchLimit, heldStream, fetched]
  rfl

theorem ahead_inOrder : Along sampleStep (AheadOfReader 1 {}) .initial inOrder := by
  have ingested : AheadOfReader 1 {} (heldStream [0] (some (sampleRecord 0).cursor)
      [sampleRecord 0]) (.ingest [sampleLog 1]) := by
    intro _ record member
    have single := joinedLogs_held [1]
    rw [List.map_singleton, List.map_singleton] at single
    rw [addedLogs, shownLogs, heldStream, single] at member
    rw [List.mem_singleton.mp (List.mem_of_mem_filter member)]
    rfl
  have operated : Along sampleStep (AheadOfReader 1 {}) .initial
      ((arrival ++ [abandonment]).map .operate) := along_operate _ _
  rw [inOrder, twoLogs, List.append_assoc]
  apply operated.append
  rw [run_held]
  refine ⟨fun _ _ _ => rfl, ?_⟩
  rw [ingest_first]
  refine ⟨trivial, ?_⟩
  rw [poll_first]
  exact ⟨ingested, trivial, trivial⟩

/-- Logs that are stored in order reach the reader. -/
theorem log_stream_complete_inOrder :
    Drained 1 {} sampleBatchLimit (run (streamStep samplePlatform sampleSettings 1 {}
        sampleBatchLimit) .initial inOrder) ∧
      (run (streamStep samplePlatform sampleSettings 1 {} sampleBatchLimit) .initial
        inOrder).received.Perm
          (shownLogs 1 {} (run (streamStep samplePlatform sampleSettings 1 {} sampleBatchLimit)
            .initial inOrder).ledger) := by
  have drained : Drained 1 {} sampleBatchLimit (run (streamStep samplePlatform sampleSettings 1 {}
      sampleBatchLimit) .initial inOrder) := by
    have reached := run_inOrder
    rw [sampleStep] at reached
    rw [reached, Drained, fetchJobLogs_eq, shownLogs, heldStream, joinedLogs_held]
    rfl
  refine ⟨drained, ?_⟩
  have complete := log_stream_complete_iff samplePlatform sampleSettings 1 {} sampleBatchLimit
    inOrder drained
  exact complete.mpr ahead_inOrder

/-- The second log is stored behind the cursor, and the reader never sees it. -/
theorem late_log_never_streamed :
    ¬∀ events : List StreamEvent,
      let state := run (streamStep samplePlatform sampleSettings 1 {} sampleBatchLimit)
        .initial events
      Drained 1 {} sampleBatchLimit state →
        state.received.Perm (shownLogs 1 {} state.ledger) := by
  intro complete
  have received := complete (twoLogs 1 0)
  rw [show run (streamStep samplePlatform sampleSettings 1 {} sampleBatchLimit) .initial
    (twoLogs 1 0) = _ from run_twoLogs (by decide)] at received
  have shown : shownLogs 1 {} (heldStream [1, 0] (some (sampleRecord 1).cursor)
      [sampleRecord 1]).ledger = [sampleRecord 1, sampleRecord 0] := by
    rw [shownLogs, heldStream, joinedLogs_held]
    rfl
  have drained : Drained 1 {} sampleBatchLimit (heldStream [1, 0] (some (sampleRecord 1).cursor)
      [sampleRecord 1]) := by
    rw [Drained, fetchJobLogs_eq, shown]
    rfl
  have same := (received drained).length_eq
  rw [shown] at same
  simp [heldStream] at same

end RvcOrchestrator.Manager

import RvcOrchestrator.Foundation.Json
import RvcOrchestrator.Foundation.Redelivery
import RvcOrchestrator.Foundation.Sha256

/-! # The telemetry spool of a Worker

Batches of logs and metrics are stored as files before they are sent. A flush lists the files by
name and sends them in that order; what cannot be sent is left for the next flush.
-/

namespace RvcOrchestrator.Worker

open RvcOrchestrator.Foundation

/-! ## Records -/

inductive LogLevel where
  | info
  | error
deriving DecidableEq

structure LogEntry where
  sequence : Nat
  level : LogLevel
  message : String
  occurredAt : Int
  fields : Json
deriving DecidableEq

structure MetricEntry where
  sequence : Nat
  key : String
  value : PyFloat
  epoch : Option Nat
  step : Option Nat
  occurredAt : Int
deriving DecidableEq

inductive TelemetryKind where
  | log
  | metric
deriving DecidableEq

def TelemetryKind.value : TelemetryKind → String
  | log => "log"
  | metric => "metric"

inductive BatchEntries where
  | logs (entries : List LogEntry)
  | metrics (entries : List MetricEntry)
deriving DecidableEq

structure SpoolRecord where
  jobId : String
  leaseId : String
  attemptId : String
  idempotencyKey : String
  entries : BatchEntries
deriving DecidableEq

namespace SpoolRecord

def kind (record : SpoolRecord) : TelemetryKind :=
  match record.entries with
  | .logs _ => .log
  | .metrics _ => .metric

def sequences (record : SpoolRecord) : List Nat :=
  match record.entries with
  | .logs entries => entries.map LogEntry.sequence
  | .metrics entries => entries.map MetricEntry.sequence

end SpoolRecord

def sha256Text (text : String) : String := Sha256.hexDigest text.toUTF8.toList

def recordName (kind : TelemetryKind) (jobId idempotencyKey : String) : String :=
  kind.value ++ "-" ++ sha256Text (kind.value ++ "\x00" ++ jobId ++ "\x00" ++ idempotencyKey) ++
    ".json"

def SpoolRecord.name (record : SpoolRecord) : String :=
  recordName record.kind record.jobId record.idempotencyKey

/-! ## Writing -/

structure SpoolSettings where
  maxBytes : Nat
  maxRecordBytes : Nat
  /-- The size of the file of a record. -/
  encodedBytes : SpoolRecord → Nat

/-- The records of the files in the two directories; those that were given up with the reason. -/
structure TelemetrySpool where
  pending : List SpoolRecord
  deadLetter : List (SpoolRecord × String)
deriving DecidableEq

def isSafeIdChar (char : Char) : Bool := char.isAlphanum || char ∈ ['_', '.', '-']

def validateJobId (jobId : String) : Except String Unit :=
  match jobId.toList with
  | [] => .error "unsafe telemetry job identifier"
  | first :: rest =>
      if first.isAlphanum ∧ rest.all isSafeIdChar ∧ rest.length ≤ 127 then .ok ()
      else .error "unsafe telemetry job identifier"

namespace TelemetrySpool

def start : TelemetrySpool := ⟨[], []⟩

def writeRecord (settings : SpoolSettings) (spool : TelemetrySpool) (record : SpoolRecord) :
    Except String TelemetrySpool :=
  match spool.pending.find? fun other => other.name = record.name with
  | some existing =>
      if existing ≠ record then
        .error "telemetry idempotency key was reused with a different payload"
      else .ok spool
  | none =>
      if settings.maxBytes <
          (spool.pending.map settings.encodedBytes).sum + settings.encodedBytes record then
        .error "telemetry spool is full; refusing to discard log or metric data"
      else .ok { spool with pending := spool.pending ++ [record] }

def enqueue (settings : SpoolSettings) (spool : TelemetrySpool) (record : SpoolRecord) :
    Except String TelemetrySpool :=
  match validateJobId record.jobId with
  | .error error => .error error
  | .ok () =>
      if settings.maxRecordBytes < settings.encodedBytes record then
        .error "telemetry record exceeds the per-record size limit"
      else spool.writeRecord settings record

def listPending (spool : TelemetrySpool) : List SpoolRecord :=
  spool.pending.mergeSort fun left right => left.name ≤ right.name

/-- `_remove_record`, which unlinks the file. -/
def removeRecord (spool : TelemetrySpool) (record : SpoolRecord) : TelemetrySpool :=
  { spool with pending := spool.pending.filter fun other => other.name ≠ record.name }

def moveToDeadLetter (spool : TelemetrySpool) (record : SpoolRecord) (reason : String) :
    TelemetrySpool :=
  { spool.removeRecord record with deadLetter := (record, reason) :: spool.deadLetter }

end TelemetrySpool

/-! ## Flushing -/

/-- A flush in its loop: the records from the current one on, and whether the current one has been
sent and reached the Manager. -/
structure Flush where
  records : List SpoolRecord
  sent : Option Bool
deriving DecidableEq

/-- How sending a record ends. Lost connections, timeouts and answers that may be retried stop the
flush. -/
inductive SendOutcome where
  | accepted
  | retryable
  | refused (statusCode : Option Nat)
deriving DecidableEq

def deadLetterReason : Option Nat → String
  | some statusCode => "http-" ++ toString statusCode
  | none => "rejected"

end RvcOrchestrator.Worker

import RvcOrchestrator.Worker.TrainingLogTail

/-! # Collecting metrics from the output of a process

The output of a subprocess comes in chunks. The collector keeps an unfinished line until the next
chunk, as long as it is not too long.
-/

namespace RvcOrchestrator.Worker

open RvcOrchestrator.Foundation

/-! ## Channels -/

inductive OutputChannel where
  | stdout
  | stderr
deriving DecidableEq

namespace OutputChannel

def name : OutputChannel → String
  | .stdout => "stdout"
  | .stderr => "stderr"

def named (name : String) : Option OutputChannel :=
  [stdout, stderr].find? fun channel => channel.name = name

end OutputChannel

inductive CollectorError where
  | runner (message : String)
  | parser (error : ParserError)
deriving DecidableEq

/-! ## Lines -/

structure Collection where
  parser : TrainingLogParser
  lineIndexes : OutputChannel → Nat
  metrics : List ParsedTrainingMetric
  droppedRecords : Nat
  /-- What the telemetry sink was given. -/
  recorded : List TrainingEvent

structure CollectorLimits where
  maxRecords : Nat
  telemetrySink : Bool

def outputKey (channel : OutputChannel) (lineIndex : Nat) (value : List UInt8) : String :=
  if maxMetricLineBytes < value.length then
    channel.name ++ ":" ++ toString lineIndex ++ ":oversized:" ++ Sha256.hexDigest value
  else channel.name ++ ":" ++ toString lineIndex ++ ":" ++ Sha256.hexDigest value

namespace Collection

def initial : Collection where
  parser := .initial
  lineIndexes := fun _ => 0
  metrics := []
  droppedRecords := 0
  recorded := []

def nextLine (collection : Collection) (channel : OutputChannel) : Collection :=
  { collection with
    lineIndexes := Function.update collection.lineIndexes channel
      (collection.lineIndexes channel + 1) }

def record (collection : Collection) (limits : CollectorLimits) (event : TrainingEvent) :
    Collection :=
  if limits.telemetrySink = true then
    { collection with recorded := collection.recorded ++ [event] }
  else collection

def accept (collection : Collection) (limits : CollectorLimits) :
    List ParsedTrainingMetric → Collection × List ParsedTrainingMetric
  | [] => (collection, [])
  | metric :: parsed =>
      if limits.maxRecords ≤ collection.metrics.length then
        accept { collection with droppedRecords := collection.droppedRecords + 1 } limits parsed
      else
        let after := accept { collection with metrics := collection.metrics ++ [metric] } limits
          parsed
        (after.1, metric :: after.2)

def feedLine (collection : Collection) (limits : CollectorLimits) (channel : OutputChannel)
    (value : List UInt8) : Collection × Option CollectorError :=
  let key := outputKey channel (collection.lineIndexes channel) value
  if maxMetricLineBytes < value.length then
    let dropped := { collection with droppedRecords := collection.droppedRecords + 1 }
    ((dropped.nextLine channel).record limits
      { source := "stdout", eventKey := key,
        message := some "worker subprocess output line exceeded the byte limit",
        metrics := [], channel := some channel.name }, none)
  else
    let line := decodeLine value
    let (parser, parsed) :=
      if channel = .stdout then collection.parser.feed line else (collection.parser, .ok [])
    match parsed with
    | .error error => ({ collection with parser := parser }, some (.parser error))
    | .ok parsed =>
        let (collection, accepted) := accept { collection with parser := parser } limits parsed
        let collection := collection.nextLine channel
        if line = [] then (collection, none)
        else
          (collection.record limits
            { source := "stdout", eventKey := key, message := some (String.ofList line),
              metrics := accepted, channel := some channel.name }, none)

def feedLines (limits : CollectorLimits) (channel : OutputChannel) :
    Collection → List (List UInt8) → Collection × Option CollectorError
  | collection, [] => (collection, none)
  | collection, value :: values =>
      match collection.feedLine limits channel value with
      | (collection, some error) => (collection, some error)
      | (collection, none) => feedLines limits channel collection values

end Collection

/-! ## Chunks -/

structure StreamingMetricCollector where
  buffers : OutputChannel → List UInt8
  collection : Collection

namespace StreamingMetricCollector

def initial : StreamingMetricCollector where
  buffers := fun _ => []
  collection := .initial

def feed (collector : StreamingMetricCollector) (limits : CollectorLimits)
    (channelName : String) (chunk : List UInt8) :
    StreamingMetricCollector × Option CollectorError :=
  match OutputChannel.named channelName with
  | none =>
      (collector, some (.runner "native subprocess emitted an unknown output channel"))
  | some channel =>
      let (lines, rest) := cutLines lineFeed (collector.buffers channel ++ chunk)
      let buffers := Function.update collector.buffers channel rest
      match collector.collection.feedLines limits channel (lines.map stripReturns) with
      | (collection, some error) => (⟨buffers, collection⟩, some error)
      | (collection, none) =>
          if maxMetricLineBytes < rest.length then
            let (collection, error) := collection.feedLine limits channel rest
            (⟨Function.update buffers channel [], collection⟩, error)
          else (⟨buffers, collection⟩, none)

def finishChannel (collector : StreamingMetricCollector) (limits : CollectorLimits)
    (channel : OutputChannel) : StreamingMetricCollector × Option CollectorError :=
  if collector.buffers channel = [] then (collector, none)
  else
    match collector.collection.feedLine limits channel (collector.buffers channel) with
    | (collection, some error) => (⟨collector.buffers, collection⟩, some error)
    | (collection, none) => (⟨Function.update collector.buffers channel [], collection⟩, none)

def finish (collector : StreamingMetricCollector) (limits : CollectorLimits) :
    StreamingMetricCollector × Option CollectorError :=
  match collector.finishChannel limits .stdout with
  | (collector, some error) => (collector, some error)
  | (collector, none) => collector.finishChannel limits .stderr

def collect (limits : CollectorLimits) (channelName : String) :
    StreamingMetricCollector → List (List UInt8) → StreamingMetricCollector × Option CollectorError
  | collector, [] => collector.finish limits
  | collector, chunk :: chunks =>
      match collector.feed limits channelName chunk with
      | (collector, some error) => (collector, some error)
      | (collector, none) => collect limits channelName collector chunks

end StreamingMetricCollector

end RvcOrchestrator.Worker

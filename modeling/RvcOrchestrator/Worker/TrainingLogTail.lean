import Mathlib.Data.List.DropRight
import RvcOrchestrator.Foundation.Lines
import RvcOrchestrator.Foundation.Utf8Decoding
import RvcOrchestrator.Worker.TrainingMetrics

/-! # Following the training log

Each poll of the observer reads what was appended to `train.log` since the last one. It keeps the
line that is not finished yet.
-/

namespace RvcOrchestrator.Worker

open RvcOrchestrator.Foundation

/-! ## Lines -/

def maxMetricLineBytes : Nat := 1024 ^ 2

def lineFeed : UInt8 := 10

def carriageReturn : UInt8 := 13

/-- `rstrip(b"\r")` -/
def stripReturns (line : List UInt8) : List UInt8 :=
  line.rdropWhile fun byte => byte = carriageReturn

def decodeLine (raw : List UInt8) : List Char := Utf8.decode raw

/-! ## The file -/

structure FileStat where
  regular : Bool
  device : Nat
  inode : Nat
  size : Nat
deriving DecidableEq

inductive PathStat where
  | missing
  | failed
  | found (stat : FileStat)

/-- What a poll sees of `train.log`: at its path, after opening it, while reading it and after
that. -/
structure LogView where
  path : PathStat
  symlink : Bool
  opened : Option FileStat
  bytes : List UInt8
  afterwards : FileStat

inductive ObserverError where
  | runner (message : String)
  | parser (error : ParserError)
deriving DecidableEq

/-- So many bytes from a descriptor, in reads of at most one MiB. -/
def readRemaining (bytes : List UInt8) (remaining : Nat) : Except ObserverError (List UInt8) :=
  if remaining = 0 then .ok []
  else
    let chunk := bytes.take (min (1024 * 1024) remaining)
    if chunk = [] then .error (.runner "live RVC train.log changed while reading")
    else do
      let chunks ← readRemaining (bytes.drop chunk.length) (remaining - chunk.length)
      pure (chunk ++ chunks)
termination_by remaining
decreasing_by
  exact Nat.sub_lt (Nat.pos_of_ne_zero ‹¬remaining = 0›) (List.length_pos_iff.mpr ‹¬chunk = []›)

/-! ## The observer -/

structure ObserverLimits where
  maxTrainLogBytes : Nat
  maxMetricRecords : Nat

structure MetricReading where
  parser : TrainingLogParser
  metricCount : Nat
deriving DecidableEq

structure TrainLogObserver where
  offset : Nat
  buffer : List UInt8
  bufferOffset : Nat
  reading : MetricReading
deriving DecidableEq

def lineKey (byteOffset : Nat) (raw : List UInt8) : String :=
  if maxMetricLineBytes < raw.length then
    toString byteOffset ++ ":oversized:" ++ Sha256.hexDigest raw
  else toString byteOffset ++ ":" ++ Sha256.hexDigest raw

def lineMessage (raw : List UInt8) : String :=
  if maxMetricLineBytes < raw.length then "RVC train.log line exceeded the byte limit"
  else String.ofList (decodeLine raw)

def lineEvent (byteOffset : Nat) (raw : List UInt8) (metrics : List ParsedTrainingMetric) :
    TrainingEvent where
  source := "train_log"
  eventKey := lineKey byteOffset raw
  message := some (lineMessage raw)
  metrics := metrics
  channel := some "train_log"

namespace MetricReading

def initial : MetricReading where
  parser := .initial
  metricCount := 0

def trainLogLine (reading : MetricReading) (limits : ObserverLimits) (byteOffset : Nat)
    (raw : List UInt8) : Except ObserverError (MetricReading × List TrainingEvent) :=
  if maxMetricLineBytes < raw.length then .ok (reading, [lineEvent byteOffset raw []])
  else
    let line := decodeLine raw
    if line = [] then .ok (reading, [])
    else
      match reading.parser.feed line with
      | (_, .error error) => .error (.parser error)
      | (parser, .ok parsed) =>
          let available := limits.maxMetricRecords - reading.metricCount
          let metrics := parsed.take available
          .ok (⟨parser, reading.metricCount + metrics.length⟩, [lineEvent byteOffset raw metrics])

def finishedLines (limits : ObserverLimits) (dataStart : Nat) :
    MetricReading → Nat → List (List UInt8) →
      Except ObserverError (MetricReading × Nat × List TrainingEvent)
  | reading, cursor, [] => pure (reading, cursor, [])
  | reading, cursor, line :: lines => do
      let (reading, events) ←
        reading.trainLogLine limits (dataStart + cursor) (stripReturns line)
      let (reading, cursor, more) ←
        finishedLines limits dataStart reading (cursor + line.length + 1) lines
      pure (reading, cursor, events ++ more)

end MetricReading

namespace TrainLogObserver

def initial : TrainLogObserver where
  offset := 0
  buffer := []
  bufferOffset := 0
  reading := .initial

def appended (observer : TrainLogObserver) (limits : ObserverLimits) (view : LogView)
    (path : FileStat) : Except ObserverError (FileStat × List UInt8) :=
  if view.symlink ∨ ¬path.regular then .error (.runner "live RVC train.log is unsafe")
  else if limits.maxTrainLogBytes < path.size then
    .error (.runner "live RVC train.log exceeds its byte limit")
  else if path.size < observer.offset then
    .error (.runner "live RVC train.log was truncated during training")
  else
    match view.opened with
    | none => .error (.runner "cannot open live RVC train.log")
    | some initial =>
        if ¬initial.regular ∨ initial.inode ≠ path.inode ∨ initial.device ≠ path.device ∨
            initial.size < observer.offset then
          .error (.runner "live RVC train.log identity changed")
        else do
          let chunks ← readRemaining (view.bytes.drop observer.offset)
            (initial.size - observer.offset)
          if view.afterwards.inode ≠ initial.inode ∨ view.afterwards.device ≠ initial.device ∨
              view.afterwards.size < initial.size then
            .error (.runner "live RVC train.log changed while reading")
          else .ok (initial, chunks)

def readLines (observer : TrainLogObserver) (limits : ObserverLimits) (size : Nat)
    (newBytes : List UInt8) (final : Bool) :
    Except ObserverError (TrainLogObserver × List TrainingEvent) := do
  let data := observer.buffer ++ newBytes
  let dataStart := if observer.buffer ≠ [] then observer.bufferOffset else observer.offset
  let (lines, rest) := cutLines lineFeed data
  let (reading, cursor, events) ← observer.reading.finishedLines limits dataStart 0 lines
  if final = true ∧ rest ≠ [] then do
    let (reading, last) ← reading.trainLogLine limits (dataStart + cursor) rest
    pure (⟨size, [], size, reading⟩, events ++ last)
  else pure (⟨size, rest, dataStart + cursor, reading⟩, events)

def readTrainLogEvents (observer : TrainLogObserver) (limits : ObserverLimits) (view : LogView)
    (final : Bool) : Except ObserverError (TrainLogObserver × List TrainingEvent) :=
  match view.path with
  | .missing => .ok (observer, [])
  | .failed => .error (.runner "cannot inspect live RVC train.log")
  | .found path => do
      let (initial, newBytes) ← observer.appended limits view path
      observer.readLines limits initial.size newBytes final

def follow (limits : ObserverLimits) :
    TrainLogObserver → List LogView → LogView → Except ObserverError (List TrainingEvent)
  | observer, [], final => do
      let (_, events) ← observer.readTrainLogEvents limits final true
      pure events
  | observer, view :: views, final => do
      let (observer, events) ← observer.readTrainLogEvents limits view false
      let more ← follow limits observer views final
      pure (events ++ more)

end TrainLogObserver

/-! ## The lines of a content -/

def numbered : Nat → List (List UInt8) → List (Nat × List UInt8)
  | _, [] => []
  | start, line :: lines => (start, stripReturns line) :: numbered (start + line.length + 1) lines

def unfinishedLine (start : Nat) (rest : List UInt8) : List (Nat × List UInt8) :=
  if rest = [] then [] else [(start, rest)]

def width (lines : List (List UInt8)) : Nat := (lines.map fun line => line.length + 1).sum

def linesFrom (start : Nat) (data : List UInt8) : List (Nat × List UInt8) :=
  numbered start (cutLines lineFeed data).1 ++
    unfinishedLine (start + width (cutLines lineFeed data).1) (cutLines lineFeed data).2

theorem numbered_append (start : Nat) (left right : List (List UInt8)) :
    numbered start (left ++ right) = numbered start left ++ numbered (start + width left) right := by
  induction left generalizing start with
  | nil => rfl
  | cons line left induction =>
      simp only [List.cons_append, numbered, induction, width, List.map_cons, List.sum_cons]
      rw [show start + line.length + 1 = start + (line.length + 1) from Nat.add_assoc ..,
        Nat.add_assoc start (line.length + 1)]

theorem width_append (left right : List (List UInt8)) :
    width (left ++ right) = width left + width right := by
  rw [width, List.map_append, List.sum_append]
  rfl

theorem width_cutLines (data : List UInt8) :
    width (cutLines lineFeed data).1 + (cutLines lineFeed data).2.length = data.length := by
  conv_rhs => rw [← @joined_cutLines _ _ lineFeed data]
  rw [List.length_append, List.length_flatMap]
  simp [width]

theorem linesFrom_append (start : Nat) (data later : List UInt8) :
    linesFrom start (data ++ later) =
      numbered start (cutLines lineFeed data).1 ++
        linesFrom (start + width (cutLines lineFeed data).1)
          ((cutLines lineFeed data).2 ++ later) := by
  rw [linesFrom, cutLines_append]
  simp only
  rw [numbered_append, List.append_assoc, width_append, ← Nat.add_assoc]
  rfl

theorem linesFrom_line (start : Nat) {line : List UInt8} (plain : lineFeed ∉ line)
    (rest : List UInt8) :
    linesFrom start (line ++ lineFeed :: rest) =
      (start, stripReturns line) :: linesFrom (start + line.length + 1) rest := by
  rw [linesFrom, cutLines_line plain, linesFrom]
  simp [numbered, width, Nat.add_assoc]

theorem linesFrom_unfinished (start : Nat) {data : List UInt8} (plain : lineFeed ∉ data) :
    linesFrom start data = unfinishedLine start data := by
  rw [linesFrom, cutLines_unfinished plain]
  rfl

/-- A line's offset is the one of its first byte. -/
theorem linesFrom_placed (start : Nat) (data : List UInt8) :
    ∀ line ∈ linesFrom start data, start ≤ line.1 ∧ line.2 <+: data.drop (line.1 - start) := by
  induction data using lines_induction lineFeed generalizing start with
  | unfinished data plain =>
      intro line member
      rw [linesFrom_unfinished start plain, unfinishedLine] at member
      split at member
      · cases member
      · rw [List.mem_singleton.mp member, Nat.sub_self]
        exact ⟨le_refl _, List.prefix_rfl⟩
  | line first rest plain induction =>
      intro line member
      rw [linesFrom_line start plain] at member
      rcases List.mem_cons.mp member with rfl | later
      · rw [Nat.sub_self]
        exact ⟨le_refl _, (List.rdropWhile_prefix _ _).trans (List.prefix_append _ _)⟩
      · rcases induction _ line later with ⟨above, placed⟩
        have skipped : line.1 - start =
            first.length + (line.1 - (start + first.length + 1) + 1) := by
          omega
        rw [skipped, List.drop_length_add_append, List.drop_succ_cons]
        exact ⟨by omega, placed⟩

/-- The lines stand in the order of the file. -/
theorem linesFrom_ordered (start : Nat) (data : List UInt8) :
    (linesFrom start data).Pairwise fun earlier later => earlier.1 < later.1 := by
  induction data using lines_induction lineFeed generalizing start with
  | unfinished data plain =>
      rw [linesFrom_unfinished start plain, unfinishedLine]
      split
      · exact List.Pairwise.nil
      · exact List.pairwise_singleton _ _
  | line first rest plain induction =>
      rw [linesFrom_line start plain]
      refine List.pairwise_cons.mpr ⟨?_, induction _⟩
      intro line later
      have above := (linesFrom_placed _ rest line later).1
      dsimp only
      omega

/-! ## Reading lines -/

namespace MetricReading

variable (limits : ObserverLimits)

def readNumbered : MetricReading → List (Nat × List UInt8) →
    Except ObserverError (MetricReading × List TrainingEvent)
  | reading, [] => pure (reading, [])
  | reading, line :: lines => do
      let (reading, events) ← reading.trainLogLine limits line.1 line.2
      let (reading, more) ← readNumbered reading lines
      pure (reading, events ++ more)

variable {limits}

theorem readNumbered_append (reading : MetricReading) (left right : List (Nat × List UInt8)) :
    reading.readNumbered limits (left ++ right) = (do
      let (reading, events) ← reading.readNumbered limits left
      let (reading, more) ← reading.readNumbered limits right
      pure (reading, events ++ more)) := by
  induction left generalizing reading with
  | nil => simp [readNumbered]
  | cons line left induction => simp [readNumbered, induction]

theorem finishedLines_eq (reading : MetricReading) (dataStart cursor : Nat)
    (lines : List (List UInt8)) :
    reading.finishedLines limits dataStart cursor lines = (do
      let (reading, events) ← reading.readNumbered limits (numbered (dataStart + cursor) lines)
      pure (reading, cursor + width lines, events)) := by
  induction lines generalizing reading cursor with
  | nil => simp [finishedLines, numbered, readNumbered, width]
  | cons line lines induction =>
      simp [finishedLines, numbered, readNumbered, induction, width, Nat.add_assoc]

theorem bind_eq_ok {Error Value Other : Type} {first : Except Error Value}
    {next : Value → Except Error Other} {result : Other} (done : (first >>= next) = .ok result) :
    ∃ value, first = .ok value ∧ next value = .ok result := by
  cases first with
  | error error => cases done
  | ok value => exact ⟨value, rfl, done⟩

def lineFacts (event : TrainingEvent) : String × Option String := (event.eventKey, event.message)

theorem trainLogLine_events {reading after : MetricReading} {byteOffset : Nat} {raw : List UInt8}
    {events : List TrainingEvent}
    (read : reading.trainLogLine limits byteOffset raw = .ok (after, events)) :
    events.map lineFacts =
      if raw = [] then [] else [(lineKey byteOffset raw, some (lineMessage raw))] := by
  unfold trainLogLine at read
  split at read
  · next long =>
      cases read
      rw [if_neg (by rintro rfl; cases long)]
      rfl
  · simp only at read
    split at read
    · next empty =>
        cases read
        rw [if_pos (Utf8.decode_eq_nil_iff.mp empty)]
        rfl
    · next some_ =>
        rw [if_neg fun empty => some_ (Utf8.decode_eq_nil_iff.mpr empty)]
        split at read
        · cases read
        · cases read
          rfl

theorem readNumbered_events {reading after : MetricReading} {lines : List (Nat × List UInt8)}
    {events : List TrainingEvent}
    (read : reading.readNumbered limits lines = .ok (after, events)) :
    events.map lineFacts = (lines.filter fun line => line.2 ≠ []).map fun line =>
      (lineKey line.1 line.2, some (lineMessage line.2)) := by
  induction lines generalizing reading events with
  | nil =>
      cases read
      rfl
  | cons line lines induction =>
      rcases bind_eq_ok read with ⟨first, readFirst, rest⟩
      rcases bind_eq_ok rest with ⟨more, readMore, result⟩
      cases result
      rw [List.map_append, trainLogLine_events readFirst, induction readMore, List.filter_cons]
      split
      · next empty => simp [empty]
      · next some_ => simp [some_]

end MetricReading

/-! ## A growing log -/

/-- The view is one of a log that has grown to the size when it is opened, and to the least size
before. -/
structure LogView.Shows (view : LogView) (content : List UInt8) (device inode least size : Nat) :
    Prop where
  path : ∃ pathSize, view.path = .found ⟨true, device, inode, pathSize⟩ ∧ least ≤ pathSize ∧
    pathSize ≤ size
  notLink : view.symlink = false
  opened : view.opened = some ⟨true, device, inode, size⟩
  bytes : view.bytes <+: content ∧ size ≤ view.bytes.length
  afterwards : ∃ endSize, view.afterwards = ⟨true, device, inode, endSize⟩ ∧ size ≤ endSize

/-- The polls see a log that grows by appending, which may not exist at first, and the final one
sees the complete content. -/
def Grows (content : List UInt8) (device inode : Nat) : Nat → List LogView → LogView → Prop
  | least, [], final => final.Shows content device inode least content.length
  | least, view :: views, final =>
      (view.path = .missing ∧ Grows content device inode least views final) ∨
        ∃ size, view.Shows content device inode least size ∧
          Grows content device inode size views final

theorem readRemaining_eq {bytes : List UInt8} {remaining : Nat}
    (enough : remaining ≤ bytes.length) :
    readRemaining bytes remaining = .ok (bytes.take remaining) := by
  induction bytes, remaining using readRemaining.induct with
  | case1 bytes => rw [readRemaining, if_pos rfl, List.take_zero]
  | case2 bytes remaining some_ chunk empty =>
      have read : chunk.length = min (min (1024 * 1024) remaining) bytes.length :=
        List.length_take
      rw [empty, List.length_nil] at read
      omega
  | case3 bytes remaining some_ chunk more induction =>
      have read : chunk.length = min (1024 * 1024) remaining := by
        rw [List.length_take]
        omega
      have rest : remaining - chunk.length ≤ (bytes.drop chunk.length).length := by
        rw [List.length_drop]
        omega
      have whole : bytes.take remaining =
          chunk ++ (bytes.drop chunk.length).take (remaining - chunk.length) := by
        rw [read, ← List.take_add]
        congr 1
        omega
      rw [readRemaining, if_neg some_, whole]
      exact (if_neg more).trans (by rw [induction rest]; rfl)

namespace TrainLogObserver

variable {limits : ObserverLimits} {observer : TrainLogObserver} {content : List UInt8}
  {device inode size : Nat}

/-- The unfinished line ends where the observer has read to. -/
def Aligned (observer : TrainLogObserver) : Prop :=
  observer.bufferOffset + observer.buffer.length = observer.offset

theorem Aligned.dataStart (aligned : observer.Aligned) :
    (if observer.buffer ≠ [] then observer.bufferOffset else observer.offset) =
      observer.bufferOffset := by
  split
  · rfl
  · next empty =>
      rw [← aligned, not_ne_iff.mp empty]
      rfl

theorem readLines_poll (aligned : observer.Aligned) (size : Nat) (newBytes : List UInt8) :
    observer.readLines limits size newBytes false = (do
      let (reading, events) ← observer.reading.readNumbered limits
        (numbered observer.bufferOffset (cutLines lineFeed (observer.buffer ++ newBytes)).1)
      pure (⟨size, (cutLines lineFeed (observer.buffer ++ newBytes)).2,
        observer.bufferOffset + width (cutLines lineFeed (observer.buffer ++ newBytes)).1,
        reading⟩, events)) := by
  simp [readLines, aligned.dataStart, MetricReading.finishedLines_eq]

theorem readLines_final (aligned : observer.Aligned) (size : Nat) (newBytes : List UInt8) :
    (do
      let (_, events) ← observer.readLines limits size newBytes true
      pure events) = (do
      let (_, events) ← observer.reading.readNumbered limits
        (linesFrom observer.bufferOffset (observer.buffer ++ newBytes))
      pure events) := by
  simp only [readLines, aligned.dataStart, MetricReading.finishedLines_eq, linesFrom,
    MetricReading.readNumbered_append, unfinishedLine, bind_assoc, pure_bind, Nat.zero_add]
  congr 1
  funext read
  split
  · next some_ => simp [MetricReading.readNumbered, some_.2]
  · next none_ =>
      have empty := not_ne_iff.mp fun some_ => none_ ⟨trivial, some_⟩
      simp [MetricReading.readNumbered, empty]

theorem appended_eq {view : LogView} (within : content.length ≤ limits.maxTrainLogBytes)
    (shows : view.Shows content device inode observer.offset size) :
    ∃ path, view.path = .found path ∧ observer.appended limits view path =
      .ok (⟨true, device, inode, size⟩, (content.drop observer.offset).take (size - observer.offset)) := by
  rcases shows.path with ⟨pathSize, found, least, atMost⟩
  rcases shows.bytes with ⟨⟨later, whole⟩, enough⟩
  rcases shows.afterwards with ⟨endSize, afterwards, grown⟩
  have length : view.bytes.length ≤ content.length := by
    rw [← whole, List.length_append]
    omega
  have large : ¬limits.maxTrainLogBytes < pathSize := by omega
  have later_ : ¬pathSize < observer.offset := by omega
  have opened : ¬size < observer.offset := by omega
  have closed : ¬endSize < size := by omega
  have read : readRemaining (view.bytes.drop observer.offset) (size - observer.offset) =
      .ok ((content.drop observer.offset).take (size - observer.offset)) := by
    rw [readRemaining_eq (by rw [List.length_drop]; omega), ← whole,
      List.drop_append_of_le_length (by omega),
      List.take_append_of_le_length (by rw [List.length_drop]; omega)]
  refine ⟨_, found, ?_⟩
  simp only [appended, shows.notLink, shows.opened, afterwards, large, later_, opened, closed, read,
    not_true_eq_false, ne_eq, if_false, or_self, Bool.false_eq_true]
  rfl

theorem readTrainLogEvents_eq {view : LogView} (within : content.length ≤ limits.maxTrainLogBytes)
    (shows : view.Shows content device inode observer.offset size) (final : Bool) :
    observer.readTrainLogEvents limits view final =
      observer.readLines limits size ((content.drop observer.offset).take (size - observer.offset))
        final := by
  rcases appended_eq within shows with ⟨path, found, read⟩
  rw [readTrainLogEvents, found]
  simp only [read]
  rfl

/-- A poll leaves an observer that is aligned again. -/
theorem aligned_after (aligned : observer.Aligned) (later : observer.offset ≤ size)
    (exists_ : size ≤ content.length) (reading : MetricReading) :
    let data := observer.buffer ++ (content.drop observer.offset).take (size - observer.offset)
    (TrainLogObserver.mk size (cutLines lineFeed data).2
      (observer.bufferOffset + width (cutLines lineFeed data).1) reading).Aligned := by
  intro data
  have bytes := width_cutLines data
  have length : data.length = observer.buffer.length + (size - observer.offset) := by
    rw [List.length_append, List.length_take, List.length_drop]
    omega
  unfold Aligned at aligned ⊢
  dsimp only
  omega

/-- However the log grows, the polls read the lines that are not read yet. -/
theorem follow_eq (within : content.length ≤ limits.maxTrainLogBytes) {views : List LogView}
    {final : LogView} (aligned : observer.Aligned)
    (grows : Grows content device inode observer.offset views final) :
    follow limits observer views final = (do
      let (_, events) ← observer.reading.readNumbered limits
        (linesFrom observer.bufferOffset (observer.buffer ++ content.drop observer.offset))
      pure events) := by
  induction views generalizing observer with
  | nil =>
      have rest : (content.drop observer.offset).take (content.length - observer.offset) =
          content.drop observer.offset := by
        apply List.take_of_length_le
        rw [List.length_drop]
      rw [follow, readTrainLogEvents_eq within grows, rest]
      exact readLines_final aligned content.length _
  | cons view views induction =>
      rcases grows with ⟨missing, grows⟩ | ⟨size, shows, grows⟩
      · rw [follow, readTrainLogEvents, missing]
        change (do
          let more ← follow limits observer views final
          pure ([] ++ more)) = _
        simp only [induction aligned grows, List.nil_append, bind_pure]
      · rcases shows.path with ⟨pathSize, -, least, atMost⟩
        rcases shows.bytes with ⟨read, enough⟩
        have later : observer.offset ≤ size := le_trans least atMost
        have exists_ : size ≤ content.length := le_trans enough read.length_le
        have split : content.drop observer.offset =
            (content.drop observer.offset).take (size - observer.offset) ++ content.drop size := by
          conv_lhs => rw [← List.take_append_drop (size - observer.offset)
            (content.drop observer.offset), List.drop_drop, Nat.add_sub_cancel' later]
        rw [follow, readTrainLogEvents_eq within shows, readLines_poll aligned]
        conv_rhs => rw [split, ← List.append_assoc, linesFrom_append,
          MetricReading.readNumbered_append]
        simp only [bind_assoc, pure_bind]
        congr 1
        funext first
        rw [induction (aligned_after aligned later exists_ first.1) grows]
        simp only [bind_assoc, pure_bind]

/-- However the log grows and whenever it is polled, the events are those of one look at the
complete log: one for each non-empty line, in the order of the file, with the offset of the line's
first byte. -/
theorem follow_independent (limits : ObserverLimits) {views : List LogView} {final whole : LogView}
    (within : content.length ≤ limits.maxTrainLogBytes)
    (grows : Grows content device inode 0 views final)
    (complete : whole.Shows content device inode 0 content.length) :
    (follow limits initial views final = do
      let (_, events) ← initial.readTrainLogEvents limits whole true
      pure events) ∧
    (∀ events, follow limits initial views final = .ok events →
      events.map MetricReading.lineFacts =
        ((linesFrom 0 content).filter fun line => line.2 ≠ []).map fun line =>
          (lineKey line.1 line.2, some (lineMessage line.2))) ∧
    (∀ line ∈ linesFrom 0 content, line.2 <+: content.drop line.1) ∧
    (linesFrom 0 content).Pairwise fun earlier later => earlier.1 < later.1 := by
  have aligned : initial.Aligned := rfl
  have followed := follow_eq within aligned grows
  have once := @follow_eq _ _ _ _ _ within [] _ aligned complete
  rw [followed]
  refine ⟨by rw [← once]; rfl, ?_, ?_, linesFrom_ordered 0 content⟩
  · intro events read
    rcases MetricReading.bind_eq_ok read with ⟨after, readAll, result⟩
    cases result
    exact MetricReading.readNumbered_events readAll
  · exact fun line member => (linesFrom_placed 0 content line member).2

def quietView (bytes : List UInt8) : LogView where
  path := .found ⟨true, 1, 2, bytes.length⟩
  symlink := false
  opened := some ⟨true, 1, 2, bytes.length⟩
  bytes := bytes
  afterwards := ⟨true, 1, 2, bytes.length⟩

theorem quietView_shows {bytes content : List UInt8} (prefix_ : bytes <+: content) {least : Nat}
    (later : least ≤ bytes.length) : (quietView bytes).Shows content 1 2 least bytes.length where
  path := ⟨_, rfl, later, le_refl _⟩
  notLink := rfl
  opened := rfl
  bytes := ⟨prefix_, le_refl _⟩
  afterwards := ⟨_, rfl, le_refl _⟩

/-- A poll between the CR and the LF of a line. -/
theorem follow_independent_betweenReturns :
    let content : List UInt8 := [97, 13, 10, 98]
    let limits : ObserverLimits := ⟨100, 10⟩
    let views := [{ quietView [] with path := .missing }, quietView [97, 13]]
    (follow limits initial views (quietView content) = (do
      let (_, events) ← initial.readTrainLogEvents limits (quietView content) true
      pure events)) ∧
    (∀ events, follow limits initial views (quietView content) = .ok events →
      events.map MetricReading.lineFacts =
        ((linesFrom 0 content).filter fun line => line.2 ≠ []).map fun line =>
          (lineKey line.1 line.2, some (lineMessage line.2))) ∧
    (∀ line ∈ linesFrom 0 content, line.2 <+: content.drop line.1) ∧
    (linesFrom 0 content).Pairwise fun earlier later => earlier.1 < later.1 :=
  follow_independent ⟨100, 10⟩ (by decide)
    (.inl ⟨rfl, .inr ⟨2, quietView_shows ⟨[10, 98], rfl⟩ (by decide),
      quietView_shows List.prefix_rfl (by decide)⟩⟩)
    (quietView_shows List.prefix_rfl (by decide))

end TrainLogObserver

end RvcOrchestrator.Worker

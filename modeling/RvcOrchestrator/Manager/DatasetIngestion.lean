import RvcOrchestrator.Foundation.Json
import RvcOrchestrator.Foundation.Procedure
import RvcOrchestrator.Foundation.Sha256
import RvcOrchestrator.Manager.DatasetArchives

/-! # Dataset ingestion

An uploaded audio file or archive is collected into a staging directory of its own, together
with a manifest and a quality report, and then moved to its destination. Each call of the
operating system may fail.
-/

namespace RvcOrchestrator.Manager

open RvcOrchestrator.Foundation

/-! ## Documents -/

structure SkippedSource where
  sourcePath : String
  reason : SkipReason
deriving DecidableEq

inductive RejectionReason where
  | emptyAudioFile
  | invalidWav
deriving DecidableEq

structure RejectedSource where
  sourcePath : String
  reason : RejectionReason
  detail : Option String
deriving DecidableEq

structure DuplicateSource where
  sourcePath : String
  sha256 : String
  duplicateOf : CanonicalPath
deriving DecidableEq

structure DatasetManifest where
  wavSilenceThresholdDbfs : ℚ
  contentSha256 : String
  fileCount : Nat
  totalBytes : Nat
  validatedWavDurationSeconds : ℚ
  files : List ManifestFile
deriving DecidableEq

structure PcmQualityAggregate where
  validatedFileCount : Nat
  sampleCount : Nat
  clippingRatio : ℚ
  silenceRatio : ℚ
  rmsRatio : ℚ
  silenceThresholdDbfs : ℚ
  loudness : PcmLoudnessAggregate
deriving DecidableEq

inductive SourceKind where
  | audio (extension : AudioExtension)
  | zip
deriving DecidableEq

structure QualityReport where
  sourceKind : SourceKind
  sourceFileEntries : Nat
  includedCount : Nat
  decoderPendingCount : Nat
  pcmQuality : Option PcmQualityAggregate
  skipped : List SkippedSource
  rejected : List RejectedSource
  duplicates : List DuplicateSource
deriving DecidableEq

inductive Raised where
  | exception (exception : IngestionException)
  | noUsableAudio (report : QualityReport)
  | fault (fault : Fault)

/-! ## Calls of the operating system -/

inductive FileCall where
  /-- The source is opened or read, which raises what is given. -/
  | readSource (raised : Option Fault)
  | makeDirectory (path : TreePath)
  /-- Answers whether there was no such file. -/
  | create (path : TreePath)
  | write (path : TreePath) (bytes : List UInt8)
  | close (path : TreePath)
  | unlink (path : TreePath) (missingOk : Bool)
  | readFile (path : TreePath)
  | rename (source target : TreePath)
  | removeTree (path : TreePath)
  /-- `os.path.lexists`, which a fault makes answer that there is nothing. -/
  | lexists (path : TreePath)
  /-- `tempfile.mkdtemp`. -/
  | makeTemporary (parent : TreePath) (start : String)
  /-- The staging directory is removed where it is still there. -/
  | removeStaging (path : TreePath)
  /-- The lock of a publish is closed and removed, without regard to faults. -/
  | unlockPublish (path : TreePath)

@[reducible] def FileReply : FileCall → Type
  | .create _ => Except Fault Bool
  | .readFile _ => Except Fault (List UInt8)
  | .lexists _ => Bool
  | .makeTemporary _ _ => Except Fault TreePath
  | .removeStaging _ | .unlockPublish _ => Unit
  | _ => Except Fault Unit

/-- Whether the call raises. A write may have written something before, and a temporary
directory is given a random end. -/
structure FileChoice where
  fault : Option Fault
  written : Nat
  drawn : String

def FileChoice.answer (choice : FileChoice) (tree : FileNode) (changed : Option FileNode) :
    Except Fault Unit × FileNode :=
  match choice.fault, changed with
  | some fault, _ => (.error fault, tree)
  | none, none => (.error .os, tree)
  | none, some next => (.ok (), next)

/-- No call of `mkdtemp` ends with a name that is taken. -/
def performCall (choice : FileChoice) (tree : FileNode) :
    (call : FileCall) → Option (FileReply call × FileNode)
  | .readSource raised =>
      some
        (match choice.fault.or raised with
          | some fault => .error fault
          | none => .ok (), tree)
  | .makeDirectory path => some (choice.answer tree (tree.add (.directory []) path))
  | .create path =>
      some
        (match choice.fault, tree.at? path, tree.add (.file []) path with
          | some fault, _, _ => (.error fault, tree)
          | none, some _, _ => (.ok false, tree)
          | none, none, none => (.error .os, tree)
          | none, none, some next => (.ok true, next))
  | .write path bytes =>
      some
        (match choice.fault with
          | some fault => (.error fault, (tree.append (bytes.take choice.written) path).getD tree)
          | none => choice.answer tree (tree.append bytes path))
  | .close _ => some (choice.answer tree (some tree))
  | .unlink path missingOk =>
      some (choice.answer tree
        (if missingOk && (tree.at? path).isNone then some tree else tree.unlink path))
  | .readFile path =>
      some
        (match choice.fault, tree.at? path with
          | some fault, _ => .error fault
          | none, some (.file content) => .ok content
          | none, _ => .error .os, tree)
  | .rename source target => some (choice.answer tree (tree.rename source target))
  | .removeTree path => some (choice.answer tree (tree.removeTree path))
  | .lexists path => some (choice.fault.isNone && (tree.at? path).isSome, tree)
  | .makeTemporary parent start =>
      let path := parent ++ [start ++ choice.drawn]
      match choice.fault, tree.at? path, tree.add (.directory []) path with
      | some fault, _, _ => some (.error fault, tree)
      | none, some _, _ => none
      | none, none, none => some (.error .os, tree)
      | none, none, some next => some (.ok path, next)
  | .removeStaging path => some ((), if (tree.at? path).isSome then tree.put none path else tree)
  | .unlockPublish path => some ((), (tree.unlink path).getD tree)

/-! ## Calls of a program -/

abbrev Ingestion (Result : Type) := Raising FileCall FileReply Raised Result

namespace Ingestion

def raise {Result : Type} (exception : IngestionException) : Ingestion Result :=
  Raising.raise (.exception exception)

def readSource (raised : Option Fault) : Ingestion Unit :=
  Procedure.perform (.readSource raised) fun reply => .done (reply.mapError .fault)

def makeDirectory (path : TreePath) : Ingestion Unit :=
  Procedure.perform (.makeDirectory path) fun reply => .done (reply.mapError .fault)

def create (path : TreePath) : Ingestion Bool :=
  Procedure.perform (.create path) fun reply => .done (reply.mapError .fault)

/-- `open` with mode `x`. -/
def createExclusive (path : TreePath) : Ingestion Unit := do
  if ← create path then pure () else Raising.raise (.fault .os)

def write (path : TreePath) (bytes : List UInt8) : Ingestion Unit :=
  Procedure.perform (.write path bytes) fun reply => .done (reply.mapError .fault)

def close (path : TreePath) : Ingestion Unit :=
  Procedure.perform (.close path) fun reply => .done (reply.mapError .fault)

def unlink (path : TreePath) (missingOk : Bool) : Ingestion Unit :=
  Procedure.perform (.unlink path missingOk) fun reply => .done (reply.mapError .fault)

def readFile (path : TreePath) : Ingestion (Except Fault (List UInt8)) :=
  Procedure.perform (.readFile path) fun reply => .done (.ok reply)

def rename (source target : TreePath) : Ingestion Unit :=
  Procedure.perform (.rename source target) fun reply => .done (reply.mapError .fault)

def removeTree (path : TreePath) : Ingestion Unit :=
  Procedure.perform (.removeTree path) fun reply => .done (reply.mapError .fault)

def lexists (path : TreePath) : Ingestion Bool :=
  Procedure.perform (.lexists path) fun reply => .done (.ok reply)

def makeTemporary (parent : TreePath) (start : String) : Ingestion TreePath :=
  Procedure.perform (.makeTemporary parent start) fun reply => .done (reply.mapError .fault)

def removeStaging (path : TreePath) : Ingestion Unit :=
  Procedure.perform (.removeStaging path) fun _ => .done (.ok ())

def unlockPublish (path : TreePath) : Ingestion Unit :=
  Procedure.perform (.unlockPublish path) fun _ => .done (.ok ())

end Ingestion

/-! ## Collecting files -/

structure CollectionState where
  files : List ManifestFile
  skipped : List SkippedSource
  rejected : List RejectedSource
  duplicates : List DuplicateSource
  digestToPath : List (String × CanonicalPath)
  actualCopiedBytes : Nat
  sourceFileEntries : Nat

def CollectionState.empty : CollectionState where
  files := []
  skipped := []
  rejected := []
  duplicates := []
  digestToPath := []
  actualCopiedBytes := 0
  sourceFileEntries := 0

/-- What the calls of one ingestion have in common. The documents are the bytes of `to_json`. -/
structure IngestionTools where
  unicode : UnicodeText
  arithmetic : LoudnessArithmetic
  manifestDocument : DatasetManifest → List UInt8
  reportDocument : QualityReport → List UInt8

/-- At least eight digits. -/
def candidateName (entries : Nat) (extension : AudioExtension) : String :=
  "candidate-" ++ "".pushn '0' (8 - (toString entries).length) ++ toString entries ++ extension.text

section

variable (tools : IngestionTools) (limits : IngestionLimits)

def copyChunks (destination : TreePath) (ending : Option Fault) :
    List (List UInt8) → List UInt8 → Nat → Ingestion (List UInt8 × Nat)
  | [], copied, actualCopiedBytes => do
      Ingestion.readSource ending
      pure (copied, actualCopiedBytes)
  | chunk :: chunks, copied, actualCopiedBytes => do
      Ingestion.readSource none
      if chunk = [] then pure (copied, actualCopiedBytes)
      else if limits.maxFileUncompressedBytes < copied.length + chunk.length then
        Ingestion.raise (limitExceeded "streamed file exceeds max_file_uncompressed_bytes")
      else if limits.maxTotalUncompressedBytes < actualCopiedBytes + chunk.length then
        Ingestion.raise (limitExceeded "streamed data exceeds max_total_uncompressed_bytes")
      else do
        Ingestion.write destination chunk
        copyChunks destination ending chunks (copied ++ chunk) (actualCopiedBytes + chunk.length)

def copyAndHash (source : ByteStream) (destination : TreePath) (actualCopiedBytes : Nat) :
    Ingestion (Nat × String × Nat) :=
  Raising.handle
    (fun
      | .ok (copied, actualCopiedBytes) =>
          pure (copied.length, Sha256.hexDigest copied, actualCopiedBytes)
      | .error error => do
          Ingestion.unlink destination true
          Raising.raise error)
    (do
      Ingestion.createExclusive destination
      let (chunks, ending) := source.chunks limits.copyChunkBytes
      let copied ← copyChunks limits destination ending chunks [] actualCopiedBytes
      Ingestion.close destination
      pure copied)

/-- The text is that of an `InvalidWavError`. -/
def inspectCandidate (candidate : TreePath) (extension : AudioExtension) :
    Ingestion (Except String AudioInspection) :=
  if extension = .wav then do
    match ← Ingestion.readFile candidate with
    | .ok bytes =>
        -- A `RuntimeError` of the module is taken for a broken archive.
        if WaveRead.initfp bytes = .error .seeksBeyond then Raising.raise (.fault .archive)
        else pure ((DatasetIngestion.inspectPcmWav tools.arithmetic limits bytes).map .validatedPcm)
    | .error .os | .error .data =>
        pure (.error "invalid WAV container or unsupported PCM encoding")
    | .error fault => Raising.raise (.fault fault)
  else pure (.ok .decoderPending)

def collectAudioStream (source : ByteStream) (sourcePath : String) (extension : AudioExtension)
    (expectedSize : Nat) (candidates flatDirectory : TreePath) (state : CollectionState) :
    Ingestion CollectionState := do
  let candidate := joinPath candidates (candidateName state.sourceFileEntries extension)
  let (sizeBytes, sha256, actualCopiedBytes) ←
    copyAndHash limits source candidate state.actualCopiedBytes
  let state := { state with actualCopiedBytes }
  if sizeBytes ≠ expectedSize then do
    Ingestion.unlink candidate true
    Ingestion.raise (unsafeArchive "streamed member size differs from ZIP metadata")
  else if sizeBytes = 0 then do
    Ingestion.unlink candidate false
    pure { state with rejected := state.rejected ++ [⟨sourcePath, .emptyAudioFile, none⟩] }
  else
    match ← inspectCandidate tools limits candidate extension with
    | .error detail => do
        Ingestion.unlink candidate false
        pure { state with rejected := state.rejected ++ [⟨sourcePath, .invalidWav, some detail⟩] }
    | .ok inspection =>
        match state.digestToPath.lookup sha256 with
        | some existingPath => do
            Ingestion.unlink candidate false
            pure { state with
              duplicates := state.duplicates ++ [⟨sourcePath, sha256, existingPath⟩] }
        | none => do
            let sequence := state.files.length + 1
            let canonicalPath : CanonicalPath := ⟨sequence, extension⟩
            Ingestion.rename candidate (joinPath flatDirectory canonicalPath.name)
            pure { state with
              digestToPath := state.digestToPath ++ [(sha256, canonicalPath)]
              files := state.files ++
                [{ sequence, canonicalPath, sourcePath, extension, sizeBytes, sha256, inspection }] }

def collectEach (candidates flatDirectory : TreePath) :
    List ArchiveMember → CollectionState → Ingestion CollectionState
  | [], state => pure state
  | member :: members, state =>
      if member.member.info.isDir then collectEach candidates flatDirectory members state
      else
        let state := { state with sourceFileEntries := state.sourceFileEntries + 1 }
        match skipReason tools.unicode member.normalizedPath, audioExtension member.normalizedPath with
        | some reason, _ =>
            collectEach candidates flatDirectory members
              { state with skipped := state.skipped ++ [⟨member.normalizedPath, reason⟩] }
        | none, none =>
            collectEach candidates flatDirectory members
              { state with skipped := state.skipped ++ [⟨member.normalizedPath, .nonAudio⟩] }
        | none, some extension => do
            Ingestion.readSource member.member.stream.opening
            let state ← collectAudioStream tools limits member.member.stream member.normalizedPath
              extension member.member.info.fileSize candidates flatDirectory state
            collectEach candidates flatDirectory members state

/-- `opening` is what the constructor of `ZipFile` raises. -/
def collectZip (opening : Option Fault) (members : List ZipMember)
    (candidates flatDirectory : TreePath) : Ingestion CollectionState := do
  Ingestion.readSource opening
  let members ← Raising.ofExcept
    ((validateArchiveMembers tools.unicode limits members).mapError .exception)
  collectEach tools limits candidates flatDirectory members .empty

/-! ## Reports -/

def fromHex : List Char → List UInt8
  | high :: low :: rest => UInt8.ofNat (16 * Json.hexValue high + Json.hexValue low) :: fromHex rest
  | _ => []

def manifestContent (files : List ManifestFile) : List UInt8 :=
  "rvc-canonical-dataset-v1".toUTF8.toList ++ [0] ++ files.flatMap fun entry =>
    entry.canonicalPath.text.toUTF8.toList ++ [0] ++ fromHex entry.sha256.toList ++
      Sha256.numberBytes 8 entry.sizeBytes

def AudioInspection.duration : AudioInspection → ℚ
  | .decoderPending => 0
  | .validatedPcm pcm => pcm.durationSeconds

/-- A size of more than eight bytes is an `OverflowError`. -/
def buildManifest (files : List ManifestFile) : Except Raised DatasetManifest :=
  if files.any fun entry => 2 ^ 64 ≤ entry.sizeBytes then .error (.fault .other)
  else
    .ok
      { wavSilenceThresholdDbfs := limits.silenceThresholdDbfs
        contentSha256 := Sha256.hexDigest (manifestContent files)
        fileCount := files.length
        totalBytes := (files.map ManifestFile.sizeBytes).sum
        validatedWavDurationSeconds :=
          stableFloat (files.map fun entry => entry.inspection.duration).sum
        files := files }

def needsSecondPass (evidence : List PcmAggregateEvidence) : Bool :=
  (evidence.filterMap fun item => item.loudness.unavailableReason) = [] &&
    0 < (evidence.map fun item => item.loudness.blockCount).sum &&
    0 < (evidence.map fun item => item.loudness.gatedBlockCount).sum &&
    0 < (evidence.map fun item => item.loudness.gatedEnergySum).sum

/-- The files of the second pass. All of them are read before the first is scanned. -/
def readFlat (flatDirectory : TreePath) :
    List ManifestFile → Ingestion (List (String × List UInt8))
  | [] => pure []
  | entry :: files =>
      match entry.inspection with
      | .decoderPending => readFlat flatDirectory files
      | .validatedPcm _ => do
          match ← Ingestion.readFile (joinPath flatDirectory entry.canonicalPath.name) with
          | .ok bytes => do
              let rest ← readFlat flatDirectory files
              pure ((entry.canonicalPath.name, bytes) :: rest)
          | .error .os | .error .data =>
              Ingestion.raise (.ingestion .invalidWav "second loudness pass could not validate PCM")
          | .error fault => Raising.raise (.fault fault)

def aggregateLoudness (flatDirectory : TreePath) (files : List ManifestFile) :
    Ingestion PcmLoudnessAggregate := do
  let evidence := aggregateEvidence files
  let contents ← if needsSecondPass evidence then readFlat flatDirectory files else pure []
  Raising.ofExcept
    ((buildPcmLoudness tools.arithmetic (fun name => contents.lookup name) files evidence).mapError
      .exception)

def buildQualityReport (sourceKind : SourceKind) (flatDirectory : TreePath)
    (state : CollectionState) : Ingestion QualityReport := do
  let evidence := aggregateEvidence state.files
  let sampleCount := (evidence.map PcmAggregateEvidence.sampleCount).sum
  let report (pcmQuality : Option PcmQualityAggregate) : QualityReport :=
    { sourceKind
      sourceFileEntries := state.sourceFileEntries
      includedCount := state.files.length
      decoderPendingCount := state.files.countP fun entry => entry.inspection = .decoderPending
      pcmQuality
      skipped := state.skipped
      rejected := state.rejected
      duplicates := state.duplicates }
  if sampleCount = 0 then pure (report none)
  else do
    let loudness ← aggregateLoudness tools flatDirectory state.files
    pure (report (some
      { validatedFileCount := evidence.length
        sampleCount
        clippingRatio :=
          stableFloat ((evidence.map PcmAggregateEvidence.clippedSampleCount).sum / sampleCount)
        silenceRatio :=
          stableFloat ((evidence.map PcmAggregateEvidence.silentSampleCount).sum / sampleCount)
        rmsRatio :=
          stableFloat (min (tools.arithmetic.sqrt
            ((evidence.map PcmAggregateEvidence.normalizedSquareSum).sum / sampleCount)) 1)
        silenceThresholdDbfs := limits.silenceThresholdDbfs
        loudness }))

end

/-! ## The whole ingestion -/

structure SourceFile where
  name : String
  size : Nat
  stream : ByteStream
  /-- Raised by the constructor of `ZipFile`. -/
  archiveOpening : Option Fault
  members : List ZipMember

structure IngestionRequest where
  source : SourceFile
  limits : IngestionLimits
  /-- The message of what the checks of the paths refuse. -/
  refusedPath : Option String

structure IngestionDestination where
  parent : TreePath
  name : String
  plain : PlainName name

namespace IngestionDestination

variable (destination : IngestionDestination)

def path : TreePath := joinPath destination.parent destination.name

def stagingStart : String := "." ++ destination.name ++ ".staging-"

def lockPath : TreePath := joinPath destination.parent ("." ++ destination.name ++ ".publish.lock")

end IngestionDestination

def sourceKindOf (name : String) : Option SourceKind :=
  if lowered (pathSuffix name) = ".zip" then some .zip else (audioExtension name).map .audio

structure IngestionResult where
  destination : TreePath
  manifest : DatasetManifest
  qualityReport : QualityReport

section

variable (tools : IngestionTools)

/-- `_open_regular_binary`. -/
def openSource (source : SourceFile) : Ingestion Unit :=
  Raising.handle
    (fun
      | .error (.fault .os) =>
          Ingestion.raise
            (.ingestion .unsafePath "source could not be opened without following symlinks")
      | outcome => Raising.ofExcept outcome)
    (Ingestion.readSource source.stream.opening)

def collectSource (request : IngestionRequest) (kind : SourceKind)
    (candidates flatDirectory : TreePath) : Ingestion CollectionState := do
  openSource request.source
  match kind with
  | .zip =>
      if request.limits.maxArchiveBytes < request.source.size then
        Ingestion.raise (limitExceeded "archive input exceeds max_archive_bytes")
      else
        collectZip tools request.limits request.source.archiveOpening request.source.members
          candidates flatDirectory
  | .audio extension =>
      if request.limits.maxFileUncompressedBytes < request.source.size then
        Ingestion.raise (limitExceeded "audio input exceeds max_file_uncompressed_bytes")
      else
        collectAudioStream tools request.limits request.source.stream request.source.name extension
          request.source.size candidates flatDirectory { CollectionState.empty with
            sourceFileEntries := 1 }

def writeExclusive (path : TreePath) (document : List UInt8) : Ingestion Unit := do
  Ingestion.createExclusive path
  Ingestion.write path document
  Ingestion.close path

def stageDataset (request : IngestionRequest) (kind : SourceKind) (staging : TreePath) :
    Ingestion (DatasetManifest × QualityReport) := do
  let flatDirectory := joinPath staging "prepared_flat"
  let candidates := joinPath staging ".candidates"
  Ingestion.makeDirectory flatDirectory
  Ingestion.makeDirectory candidates
  let state ← collectSource tools request kind candidates flatDirectory
  let report ← buildQualityReport tools request.limits kind flatDirectory state
  if state.files = [] then Raising.raise (.noUsableAudio report)
  else do
    let manifest ← Raising.ofExcept (buildManifest request.limits state.files)
    Ingestion.removeTree candidates
    writeExclusive (joinPath staging "manifest.json") (tools.manifestDocument manifest)
    writeExclusive (joinPath staging "quality_report.json") (tools.reportDocument report)
    pure (manifest, report)

def moveToDestination (staging destination : TreePath) : Ingestion Unit := do
  if ← Ingestion.lexists destination then
    Ingestion.raise (.ingestion .destinationExists "destination appeared during ingestion")
  else
    Raising.handle
      (fun
        | .error (.fault .os) => do
            if ← Ingestion.lexists destination then
              Ingestion.raise (.ingestion .destinationExists "destination appeared during publish")
            else Raising.raise (.fault .os)
        | outcome => Raising.ofExcept outcome)
      (Ingestion.rename staging destination)

def publishWithoutOverwrite (staging : TreePath) (destination : IngestionDestination) :
    Ingestion Unit := do
  if ← Ingestion.create destination.lockPath then
    Raising.handle
      (fun outcome => do
        Ingestion.unlockPublish destination.lockPath
        Raising.ofExcept outcome)
      (moveToDestination staging destination.path)
  else
    Ingestion.raise (.ingestion .publishConflict "another publish is already in progress")

/-- What leaves `ingest_dataset`. -/
def reraised : Raised → Raised
  | .fault .archive =>
      .exception (unsafeArchive "archive integrity or compression validation failed")
  | error => error

def ingestInto (destination : IngestionDestination) (request : IngestionRequest)
    (kind : SourceKind) (staging : TreePath) : Ingestion IngestionResult :=
  Raising.handle
    (fun
      | .ok result => pure result
      | .error error => do
          Ingestion.removeStaging staging
          Raising.raise (reraised error))
    (do
      let (manifest, qualityReport) ← stageDataset tools request kind staging
      publishWithoutOverwrite staging destination
      pure { destination := destination.path, manifest, qualityReport })

def ingestDataset (destination : IngestionDestination) (request : IngestionRequest) :
    Ingestion IngestionResult := do
  match request.refusedPath with
  | some message => Ingestion.raise (.ingestion .unsafePath message)
  | none =>
      if ← Ingestion.lexists destination.path then
        Ingestion.raise (.ingestion .destinationExists "destination already exists")
      else
        match sourceKindOf request.source.name with
        | none =>
            Ingestion.raise (.ingestion .unsupportedInput ("supported inputs are ZIP or audio " ++
              "with extensions: .aac, .flac, .m4a, .mp3, .ogg, .wav"))
        | some kind => do
            let staging ← Ingestion.makeTemporary destination.parent destination.stagingStart
            ingestInto tools destination request kind staging

end

/-! ## Any order of the members -/

/-- The files are archives of one size with the same members. -/
structure SameArchive (left right : SourceFile) : Prop where
  leftZip : sourceKindOf left.name = some .zip
  rightZip : sourceKindOf right.name = some .zip
  size : left.size = right.size
  opening : left.stream.opening = right.stream.opening
  archiveOpening : left.archiveOpening = right.archiveOpening
  members : left.members.Perm right.members

section

variable {tools : IngestionTools} {destination : IngestionDestination} {left right : SourceFile}
  {limits : IngestionLimits} {refusedPath : Option String}

theorem collectZip_fails {opening : Option Fault} {members : List ZipMember}
    {candidates flatDirectory : TreePath} {exception : IngestionException}
    (refused : validateArchiveMembers tools.unicode limits members = .error exception) :
    (collectZip tools limits opening members candidates flatDirectory).Fails := by
  unfold collectZip
  rw [refused]
  exact Raising.fails_bind fun _ => Raising.fails_bind_of_fails (Raising.fails_raise _)

theorem collectSource_fails {request : IngestionRequest} {exception : IngestionException}
    (refused : validateArchiveMembers tools.unicode request.limits request.source.members =
      .error exception) {candidates flatDirectory : TreePath} :
    (collectSource tools request .zip candidates flatDirectory).Fails := by
  unfold collectSource
  apply Raising.fails_bind
  intro _
  simp only
  split
  · exact Raising.fails_raise _
  · exact collectZip_fails refused

theorem ingestDataset_fails {request : IngestionRequest} {exception : IngestionException}
    (zip : sourceKindOf request.source.name = some .zip)
    (refused : validateArchiveMembers tools.unicode request.limits request.source.members =
      .error exception) : (ingestDataset tools destination request).Fails := by
  unfold ingestDataset
  split
  · exact Raising.fails_raise _
  · apply Raising.fails_bind
    intro taken
    split
    · exact Raising.fails_raise _
    · rw [zip]
      apply Raising.fails_bind
      intro staging
      apply Raising.fails_handle
      · apply Raising.fails_bind_of_fails
        apply Raising.fails_bind
        intro _
        apply Raising.fails_bind
        intro _
        exact Raising.fails_bind_of_fails (collectSource_fails refused)
      · intro error
        exact Raising.fails_bind fun _ => Raising.fails_raise _

theorem collectSource_congr (same : SameArchive left right)
    (accepted : validateArchiveMembers tools.unicode limits left.members =
      validateArchiveMembers tools.unicode limits right.members)
    (candidates flatDirectory : TreePath) :
    collectSource tools ⟨left, limits, refusedPath⟩ .zip candidates flatDirectory =
      collectSource tools ⟨right, limits, refusedPath⟩ .zip candidates flatDirectory := by
  unfold collectSource openSource collectZip
  simp only [same.size, same.opening, same.archiveOpening, accepted]

theorem ingestDataset_congr (same : SameArchive left right)
    (accepted : validateArchiveMembers tools.unicode limits left.members =
      validateArchiveMembers tools.unicode limits right.members) :
    ingestDataset tools destination ⟨left, limits, refusedPath⟩ =
      ingestDataset tools destination ⟨right, limits, refusedPath⟩ := by
  unfold ingestDataset ingestInto stageDataset
  simp only [same.leftZip, same.rightZip, collectSource_congr same accepted]

/-- In whatever order the central directory lists the members, the same surroundings either
see the ingestion raise or are left with the same files, manifest and report. -/
theorem ingestion_anyOrder (tools : IngestionTools) (destination : IngestionDestination)
    (limits : IngestionLimits) (refusedPath : Option String) (left right : SourceFile)
    (same : SameArchive left right) {State : Type}
    (answer : (call : FileCall) → State → FileReply call × State) (state : State) :
    let first := Procedure.complete answer
      (ingestDataset tools destination ⟨left, limits, refusedPath⟩) state
    let second := Procedure.complete answer
      (ingestDataset tools destination ⟨right, limits, refusedPath⟩) state
    first = second ∨
      (∃ error, first.1 = .error error) ∧ ∃ error, second.1 = .error error := by
  rcases validateArchiveMembers_of_perm same.members with
    ⟨accepted, leftAccepted, rightAccepted⟩ | ⟨error, other, leftRefused, rightRefused⟩
  · apply Or.inl
    rw [ingestDataset_congr same (leftAccepted.trans rightAccepted.symm)]
  · apply Or.inr
    have leftFails :
        (ingestDataset tools destination ⟨left, limits, refusedPath⟩).Fails :=
      ingestDataset_fails same.leftZip leftRefused
    have rightFails :
        (ingestDataset tools destination ⟨right, limits, refusedPath⟩).Fails :=
      ingestDataset_fails same.rightZip rightRefused
    exact ⟨Raising.complete_of_fails leftFails state, Raising.complete_of_fails rightFails state⟩

end

/-- The reply of a call that nothing answers. -/
def unanswered : (call : FileCall) → FileReply call
  | .create _ | .readFile _ | .makeTemporary _ _ => .error .os
  | .lexists _ => false
  | .removeStaging _ | .unlockPublish _ => ()
  | .readSource _ | .makeDirectory _ | .write _ _ | .close _ | .unlink _ _ | .rename _ _
  | .removeTree _ => .error .os

def withoutFaults (call : FileCall) (tree : FileNode) : FileReply call × FileNode :=
  (performCall ⟨none, 0, "0"⟩ tree call).getD (unanswered call, tree)

def plainTools : IngestionTools where
  unicode := ⟨id, id⟩
  arithmetic := ⟨id, id, id, fun base _ => base, 3, fun _ _ _ less => less⟩
  manifestDocument := fun _ => []
  reportDocument := fun _ => []

def oneByteMember (filename : String) (byte : UInt8) : ZipMember where
  info := ⟨filename, 0, 0, 1, 1, 0⟩
  stream := ⟨none, fun _ => ([[byte]], none)⟩

def archiveOf (members : List ZipMember) : SourceFile where
  name := "data.zip"
  size := 100
  stream := ⟨none, fun _ => ([], none)⟩
  archiveOpening := none
  members := members

def smallLimits : IngestionLimits where
  maxArchiveBytes := 100
  maxEntries := 2
  maxFileUncompressedBytes := 1
  maxTotalUncompressedBytes := 2
  maxCompressionRatio := ⟨false, 3, 0, .inr (by decide)⟩
  copyChunkBytes := 1
  wavAnalysisChunkFrames := 1
  silenceThresholdDbfs := -60
  positive := by decide
  ratio := by decide +kernel
  threshold := by decide

theorem sameArchive_reverse (members : List ZipMember) :
    SameArchive (archiveOf members) (archiveOf members.reverse) where
  leftZip := (by decide : sourceKindOf "data.zip" = some .zip)
  rightZip := (by decide : sourceKindOf "data.zip" = some .zip)
  size := rfl
  opening := rfl
  archiveOpening := rfl
  members := (List.reverse_perm members).symm

def twoMembers : List ZipMember := [oneByteMember "a.mp3" 1, oneByteMember "b.mp3" 2]

def setDestination : IngestionDestination := ⟨[], "set", by decide⟩

theorem ingestion_anyOrder_pair :
    let first := Procedure.complete withoutFaults
      (ingestDataset plainTools setDestination ⟨archiveOf twoMembers, smallLimits, none⟩)
      (.directory [])
    let second := Procedure.complete withoutFaults
      (ingestDataset plainTools setDestination ⟨archiveOf twoMembers.reverse, smallLimits, none⟩)
      (.directory [])
    first = second ∨ (∃ error, first.1 = .error error) ∧ ∃ error, second.1 = .error error :=
  ingestion_anyOrder plainTools setDestination smallLimits none (archiveOf twoMembers)
    (archiveOf twoMembers.reverse) (sameArchive_reverse twoMembers) withoutFaults (.directory [])

end RvcOrchestrator.Manager

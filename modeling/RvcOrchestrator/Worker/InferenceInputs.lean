import RvcOrchestrator.Foundation.OpenFiles
import RvcOrchestrator.Foundation.Procedure
import RvcOrchestrator.Foundation.Sha256

/-! # What the inference driver loads

The driver of native inference reads a file to its end before it trusts it, and hands the same
descriptor on: to `torch.load`, to FAISS and to `wave`. Which bytes these find depends on where the
description of the descriptor then stands.
-/

namespace RvcOrchestrator.Worker

open RvcOrchestrator.Foundation

/-! ## Files -/

structure FileEvidence where
  sizeBytes : Nat
  sha256 : String
deriving DecidableEq

/-- What `fstat` tells. -/
structure FileStatus where
  regular : Bool
  mode : Nat
  sizeBytes : Nat
  device : Nat
  inode : Nat
  modifiedNs : Int
deriving DecidableEq

/-- `_stat_identity`. -/
def FileStatus.identity (status : FileStatus) : Nat × Nat × Nat × Int :=
  (status.device, status.inode, status.sizeBytes, status.modifiedNs)

structure InputFile where
  regular : Bool
  mode : Nat
  device : Nat
  inode : Nat
  modifiedNs : Int
  content : List UInt8
deriving DecidableEq

def InputFile.status (file : InputFile) : FileStatus where
  regular := file.regular
  mode := file.mode
  sizeBytes := file.content.length
  device := file.device
  inode := file.inode
  modifiedNs := file.modifiedNs

/-! ## Calls -/

inductive Loader where
  | model
  | index
  | asset
  | item
deriving DecidableEq

inductive InputCall where
  /-- `_open_absolute_nofollow`. -/
  | openFile (path : String)
  | fstat (descriptor : Nat)
  | read (descriptor count : Nat)
  | rewind (descriptor : Nat)
  | dup (descriptor : Nat)
  /-- The path of the descriptor under `/proc/self/fd` is opened. -/
  | reopen (descriptor : Nat)
  /-- A loader gets a stream of a descriptor whose file has been checked. -/
  | load (loader : Loader) (descriptor : Nat) (checked : List UInt8)
  | close (descriptor : Nat)

abbrev InputCall.Reply : InputCall → Type
  | .openFile _ => Option Nat
  | .fstat _ => Option FileStatus
  | .read _ _ => List UInt8
  | .rewind _ => Unit
  | .dup _ => Nat
  | .reopen _ => Option Nat
  | .load _ _ _ => Bool
  | .close _ => Unit

structure HandedStream where
  loader : Loader
  /-- From its first byte to its end. -/
  delivered : List UInt8
  /-- The bytes whose digest was compared. -/
  checked : List UInt8
deriving DecidableEq

structure DriverWorld where
  files : OpenFiles InputFile
  handed : List HandedStream

/-- The files there are, how much of what it could give a read gives, and which streams a loader
accepts; it leaves the offset where it likes. -/
structure DriverPlatform where
  file : String → Option InputFile
  amount : Nat → Nat
  amount_pos : ∀ available, 0 < available → 0 < amount available
  amount_le : ∀ available, amount available ≤ available
  accepts : Loader → List UInt8 → Bool
  leaves : Loader → List UInt8 → Nat

namespace DriverPlatform

def answer (platform : DriverPlatform) :
    (call : InputCall) → DriverWorld → call.Reply × DriverWorld
  | .openFile path, world =>
      match platform.file path with
      | none => (none, world)
      | some file =>
          let opened := world.files.openFile file
          (some opened.1, { world with files := opened.2 })
  | .fstat descriptor, world =>
      ((world.files.description descriptor).map fun description => description.file.status, world)
  | .read descriptor count, world =>
      let available := min count (world.files.unread InputFile.content descriptor).length
      let read := world.files.read InputFile.content descriptor (platform.amount available)
      (read.1, { world with files := read.2 })
  | .rewind descriptor, world => ((), { world with files := world.files.seek descriptor 0 })
  | .dup descriptor, world =>
      let copy := world.files.duplicate descriptor
      (copy.1, { world with files := copy.2 })
  | .reopen descriptor, world =>
      match world.files.description descriptor with
      | none => (none, world)
      | some description =>
          let opened := world.files.openFile description.file
          (some opened.1, { world with files := opened.2 })
  | .load loader descriptor checked, world =>
      let delivered := world.files.unread InputFile.content descriptor
      (platform.accepts loader delivered,
        { files := world.files.seek descriptor (platform.leaves loader delivered)
          handed := world.handed ++ [⟨loader, delivered, checked⟩] })
  | .close descriptor, world => ((), { world with files := world.files.close descriptor })

end DriverPlatform

/-! ## Verification -/

abbrev Driver (Result : Type) := Raising InputCall InputCall.Reply String Result

namespace Driver

def perform (call : InputCall) : Driver call.Reply :=
  Procedure.perform call fun reply => .done (.ok reply)

def raise {Result : Type} (error : String) : Driver Result := Raising.raise error

def fstat (descriptor : Nat) : Driver FileStatus := do
  match ← perform (.fstat descriptor) with
  | none => raise "Bad file descriptor"
  | some status => pure status

/-- `try` with `finally`. -/
def closing {Result : Type} (descriptor : Nat) (program : Driver Result) : Driver Result :=
  program.handle fun outcome => do
    perform (.close descriptor)
    Raising.ofExcept outcome

end Driver

structure OpenedFile where
  descriptor : Nat
  metadata : FileStatus
  /-- The bytes whose digest was compared. -/
  checked : List UInt8

/-- The loop over `os.read`, which goes on until nothing is read. -/
def readChunks (descriptor : Nat) : Nat → List UInt8 → Driver (List UInt8)
  | 0, content => pure content
  | fuel + 1, content => do
      let chunk ← Driver.perform (.read descriptor (1024 ^ 2))
      if chunk = [] then pure content else readChunks descriptor fuel (content ++ chunk)

def metadataInvalid (metadata : FileStatus) (expected : FileEvidence) (maximum : Nat)
    (requireMode : Option Nat) : Bool :=
  !metadata.regular || metadata.sizeBytes = 0 || maximum < metadata.sizeBytes ||
    metadata.sizeBytes ≠ expected.sizeBytes || requireMode.any (· ≠ metadata.mode)

/-- A file of this size has been read to its end after so many reads. -/
def verifyDescriptor (descriptor : Nat) (expected : FileEvidence) (maximum : Nat)
    (requireMode : Option Nat) : Driver OpenedFile := do
  let metadata ← Driver.fstat descriptor
  if metadataInvalid metadata expected maximum requireMode then
    Driver.raise "inference input metadata is invalid"
  else
    let checked ← readChunks descriptor (metadata.sizeBytes + 1) []
    if Sha256.hexDigest checked ≠ expected.sha256 then
      Driver.raise "inference input checksum is invalid"
    else
      let final ← Driver.fstat descriptor
      if metadata.identity ≠ final.identity then
        Driver.raise "inference input changed during verification"
      else pure ⟨descriptor, metadata, checked⟩

def openVerified (path : String) (expected : FileEvidence) (maximum : Nat)
    (requireMode : Option Nat) : Driver OpenedFile := do
  match ← Driver.perform (.openFile path) with
  | none => Driver.raise "inference input cannot be opened safely"
  | some descriptor =>
      (verifyDescriptor descriptor expected maximum requireMode).handle fun outcome =>
        match outcome with
        | .ok opened => pure opened
        | .error error => do
            Driver.perform (.close descriptor)
            Driver.raise error

def requireOpenIdentity (opened : OpenedFile) : Driver Unit := do
  let status ← Driver.fstat opened.descriptor
  if opened.metadata.identity ≠ status.identity then
    Driver.raise "opened inference input changed during use"
  else pure ()

/-! ## Loading -/

/-- A stream of a duplicate, which is closed afterwards. -/
def loadDuplicate (loader : Loader) (opened : OpenedFile) (error : String) : Driver Unit := do
  let stream ← Driver.perform (.dup opened.descriptor)
  let accepted ← Driver.perform (.load loader stream opened.checked)
  Driver.perform (.close stream)
  if accepted then pure () else Driver.raise error

structure TorchLoadPolicy where
  path : String
  evidence : FileEvidence
  weightsOnly : Bool
  requiredMode : Option Nat
  mapLocation : Option String

/-- A call of `torch.load` by upstream code, with its path made absolute. -/
structure TorchLoadCall where
  path : String
  /-- There are positional arguments, or a pickle module. -/
  forbiddenArguments : Bool
  weightsOnly : Option Bool
  mapLocation : Option String

/-- The checks of a call before its file is opened. -/
def TorchLoadCall.policy (call : TorchLoadCall) (policies : List TorchLoadPolicy) :
    Except String TorchLoadPolicy :=
  match policies.find? fun policy => policy.path = call.path with
  | none => .error "unreviewed torch.load source is forbidden"
  | some policy =>
      if call.forbiddenArguments then .error "operator asset load arguments are forbidden"
      else if policy.weightsOnly && call.weightsOnly ≠ some true then
        .error "operator asset trust mode conflicts"
      else if !policy.weightsOnly && call.weightsOnly = some true then
        .error "operator asset trust mode conflicts"
      else if policy.mapLocation.isSome && call.mapLocation ≠ policy.mapLocation then
        .error "operator asset map location conflicts"
      else .ok policy

def guardedTorchLoad (policies : List TorchLoadPolicy) (call : TorchLoadCall) : Driver Unit := do
  let policy ← Raising.ofExcept (call.policy policies)
  let opened ← openVerified policy.path policy.evidence (8 * 1024 ^ 3) policy.requiredMode
  Driver.closing opened.descriptor do
    Driver.perform (.rewind opened.descriptor)
    loadDuplicate .asset opened "operator asset could not be loaded"
    requireOpenIdentity opened

structure ItemRequest where
  inputPath : String
  evidence : FileEvidence

def readVerifiedPcm (item : ItemRequest) : Driver Unit := do
  let opened ← openVerified item.inputPath item.evidence (2 * 1024 ^ 3) (some 0o600)
  Driver.closing opened.descriptor do
    Driver.perform (.rewind opened.descriptor)
    loadDuplicate .item opened "TestSet item WAV structure is invalid"
    requireOpenIdentity opened

/-- FAISS opens the path of the descriptor itself. -/
def readIndex (opened : OpenedFile) : Driver Unit := do
  match ← Driver.perform (.reopen opened.descriptor) with
  | none => Driver.raise "verified descriptor paths are unavailable"
  | some stream => do
      let accepted ← Driver.perform (.load .index stream opened.checked)
      Driver.perform (.close stream)
      if accepted then pure () else Driver.raise "FAISS index could not be loaded"

/-! ## The driver -/

structure AssetRequest where
  path : String
  /-- Of the file in the projection, if it is projected. -/
  evidence : Option FileEvidence
  weightsOnly : Bool
  mapLocation : Option String

inductive DriverActivity where
  | torchLoad (call : TorchLoadCall)
  | readItem (item : ItemRequest)

structure DriverRequest where
  modelPath : String
  modelEvidence : FileEvidence
  /-- What the checks of the settings and the device say. -/
  settings : Except String Unit
  index : Option (String × FileEvidence)
  assets : List AssetRequest
  /-- What the comparison of the CREPE evidence says. -/
  crepe : Except String Unit
  activities : List DriverActivity

def verifyAsset (path : String) (evidence : FileEvidence) : Driver Unit := do
  let opened ← openVerified path evidence (8 * 1024 ^ 3) (some 0o444)
  Driver.closing opened.descriptor (requireOpenIdentity opened)

def assetPolicies : List AssetRequest → Driver (List TorchLoadPolicy)
  | [] => pure []
  | asset :: assets =>
      match asset.evidence with
      | none => Driver.raise "required operator asset is not projected"
      | some evidence => do
          verifyAsset asset.path evidence
          let policies ← assetPolicies assets
          pure
            ({ path := asset.path
               evidence
               weightsOnly := asset.weightsOnly
               requiredMode := some 0o444
               mapLocation := asset.mapLocation } :: policies)

def openIndex (index : Option (String × FileEvidence)) : Driver (Option OpenedFile) :=
  match index with
  | none => pure none
  | some (path, evidence) => do
      let opened ← openVerified path evidence (16 * 1024 ^ 3) none
      pure (some opened)

def performActivities (policies : List TorchLoadPolicy) : List DriverActivity → Driver Unit
  | [] => pure ()
  | activity :: activities => do
      match activity with
      | .torchLoad call => guardedTorchLoad policies call
      | .readItem item => readVerifiedPcm item
      performActivities policies activities

def reverifyAssets : List TorchLoadPolicy → Driver Unit
  | [] => pure ()
  | policy :: policies => do
      verifyAsset policy.path policy.evidence
      reverifyAssets policies

def requireIndexIdentity : Option OpenedFile → Driver Unit
  | none => pure ()
  | some opened => requireOpenIdentity opened

def prepareModel (request : DriverRequest) (index : Option OpenedFile) :
    Driver (List TorchLoadPolicy) := do
  match index with
  | none => pure ()
  | some opened => readIndex opened
  let policies ← assetPolicies request.assets
  Raising.ofExcept request.crepe
  pure policies

def convertItems (request : DriverRequest) (policies : List TorchLoadPolicy) (model : OpenedFile)
    (index : Option OpenedFile) : Driver Unit := do
  performActivities policies request.activities
  reverifyAssets policies
  requireOpenIdentity model
  requireIndexIdentity index

def runInference (request : DriverRequest) (model : OpenedFile) (index : Option OpenedFile) :
    Driver Unit := do
  let policies ← prepareModel request index
  loadDuplicate .model model "same-attempt model failed weights-only loading"
  convertItems request policies model index

def closeIndex : Option OpenedFile → Driver Unit
  | none => pure ()
  | some opened => Driver.perform (.close opened.descriptor)

def executeRequest (request : DriverRequest) : Driver Unit := do
  let model ← openVerified request.modelPath request.modelEvidence (2 * 1024 ^ 3) none
  Raising.handle
    (fun
      | .error error => do
          Driver.perform (.close model.descriptor)
          Driver.raise error
      | .ok index =>
          (runInference request model index).handle fun outcome => do
            Driver.perform (.close model.descriptor)
            closeIndex index
            Raising.ofExcept outcome)
    (do
      Raising.ofExcept request.settings
      openIndex request.index)

def InputFile.verifies (file : InputFile) (expected : FileEvidence) (maximum : Nat)
    (requireMode : Option Nat) : Bool :=
  !metadataInvalid file.status expected maximum requireMode &&
    Sha256.hexDigest file.content = expected.sha256

namespace DriverPlatform

def start : DriverWorld := ⟨.none, []⟩

def handed (platform : DriverPlatform) (request : DriverRequest) : List HandedStream :=
  (Procedure.complete platform.answer (executeRequest request) start).2.handed

/-! ## What is checked -/

def verifies (platform : DriverPlatform) (path : String) (expected : FileEvidence) (maximum : Nat)
    (requireMode : Option Nat) : Bool :=
  (platform.file path).any fun file => file.verifies expected maximum requireMode

def readsIndex (platform : DriverPlatform) (index : Option (String × FileEvidence)) : Bool :=
  index.all fun index =>
    platform.verifies index.1 index.2 (16 * 1024 ^ 3) none &&
      (platform.file index.1).any fun file => platform.accepts .index file.content

end DriverPlatform

def AssetRequest.verified (platform : DriverPlatform) (asset : AssetRequest) : Bool :=
  asset.evidence.any fun evidence =>
    platform.verifies asset.path evidence (8 * 1024 ^ 3) (some 0o444)

/-- Nothing is refused before the model is loaded. -/
def DriverPlatform.loadsModel (platform : DriverPlatform) (request : DriverRequest) : Bool :=
  platform.verifies request.modelPath request.modelEvidence (2 * 1024 ^ 3) none &&
    request.settings.isOk && platform.readsIndex request.index &&
    (request.assets.all fun asset => asset.verified platform) && request.crepe.isOk

/-! ## Verified files -/

def HandedStream.Exact (stream : HandedStream) : Prop := stream.delivered = stream.checked

/-- What was open is as it was, and every stream handed since is exact. -/
structure Exactly (before after : DriverWorld) : Prop where
  sound : after.files.Sound
  kept : before.files.Kept after.files
  handed : ∃ streams, after.handed = before.handed ++ streams ∧
    ∀ stream ∈ streams, HandedStream.Exact stream

theorem Exactly.refl {world : DriverWorld} (sound : world.files.Sound) : Exactly world world :=
  ⟨sound, .refl _, [], (List.append_nil _).symm, by simp⟩

theorem Exactly.trans {first second third : DriverWorld} (early : Exactly first second)
    (late : Exactly second third) : Exactly first third := by
  rcases early.handed with ⟨streams, equal, exact⟩
  rcases late.handed with ⟨more, moreEqual, moreExact⟩
  refine ⟨late.sound, early.kept.trans late.kept, streams ++ more, ?_, ?_⟩
  · rw [moreEqual, equal, List.append_assoc]
  · intro stream member
    rcases List.mem_append.mp member with old | new
    · exact exact stream old
    · exact moreExact stream new

structure Stands (before after : DriverWorld) (descriptor : Nat) (file : InputFile)
    (offset : Nat) : Prop where
  exactly : Exactly before after
  own : before.files.Own after.files descriptor
  description : after.files.description descriptor = some ⟨file, offset⟩

section

variable {platform : DriverPlatform} {before world : DriverWorld} {descriptor : Nat}
  {file : InputFile} {offset : Nat}

theorem ends_perform {Result : Type} (call : InputCall) (next : call.Reply → Driver Result)
    (Ensures : Except String Result → DriverWorld → Prop) :
    (Driver.perform call >>= next).Ends platform.answer Ensures world =
      (next (platform.answer call world).1).Ends platform.answer Ensures
        (platform.answer call world).2 := rfl

theorem fstat_ends (description : world.files.description descriptor = some ⟨file, offset⟩) :
    (Driver.fstat descriptor).Ends platform.answer
      (fun outcome after => outcome = .ok file.status ∧ after = world) world := by
  have answered : platform.answer (.fstat descriptor) world = (some file.status, world) := by
    rw [DriverPlatform.answer, description]
    rfl
  rw [Driver.fstat, ends_perform, answered]
  exact ⟨rfl, rfl⟩

/-- Seeking moves the descriptor and nothing that was open before. -/
theorem Stands.seek (stands : Stands before world descriptor file offset) (target : Nat) :
    Stands before { world with files := world.files.seek descriptor target } descriptor file
      target where
  exactly :=
    { sound := OpenFiles.sound_seek stands.exactly.sound descriptor target
      kept := OpenFiles.kept_seek stands.exactly.kept stands.own target
      handed := stands.exactly.handed }
  own := stands.own.seek descriptor target
  description := OpenFiles.description_seek stands.description target

theorem Stands.close (stands : Stands before world descriptor file offset) :
    Exactly before { world with files := world.files.close descriptor } where
  sound := OpenFiles.sound_close stands.exactly.sound descriptor
  kept := OpenFiles.kept_close stands.exactly.kept stands.own.number
  handed := stands.exactly.handed

theorem answer_read (stands : Stands before world descriptor file offset) (count : Nat) :
    let amount := platform.amount (min count (file.content.length - offset))
    platform.answer (.read descriptor count) world =
      ((file.content.drop offset).take amount,
        { world with
          files := world.files.seek descriptor
            (offset + ((file.content.drop offset).take amount).length) }) := by
  rw [DriverPlatform.answer, OpenFiles.unread, OpenFiles.read, stands.description]
  simp only
  rw [List.length_drop]

/-- The loop reads what is left. -/
theorem readChunks_ends (fuel : Nat) {content : List UInt8}
    (stands : Stands before world descriptor file offset)
    (read : content = file.content.take offset) (bounded : offset ≤ file.content.length)
    (enough : file.content.length - offset < fuel) :
    (readChunks descriptor fuel content).Ends platform.answer
      (fun outcome after => outcome = .ok file.content ∧
        Stands before after descriptor file file.content.length) world := by
  induction fuel generalizing content offset world with
  | zero => omega
  | succ fuel induction =>
      rw [readChunks, ends_perform, answer_read stands]
      simp only
      have amount := platform.amount_le (min (1024 ^ 2) (file.content.length - offset))
      by_cases finished : offset = file.content.length
      · rw [finished, List.drop_length, List.take_nil, if_pos rfl]
        refine ⟨?_, ?_⟩
        · rw [read, finished, List.take_length]
          rfl
        · exact stands.seek _
      · have left : 0 < min (1024 ^ 2) (file.content.length - offset) := by omega
        have some := platform.amount_pos _ left
        generalize platform.amount (min (1024 ^ 2) (file.content.length - offset)) = count
          at amount some ⊢
        have taken : ((file.content.drop offset).take count).length = count := by
          rw [List.length_take, List.length_drop]
          omega
        have nonempty : (file.content.drop offset).take count ≠ [] := by
          intro empty
          rw [empty] at taken
          rw [← taken] at some
          cases some
        rw [if_neg nonempty, taken]
        apply induction (stands.seek _)
        · rw [read, List.take_add]
        · omega
        · omega

theorem verifyDescriptor_ends (expected : FileEvidence) (maximum : Nat) (requireMode : Option Nat)
    (stands : Stands before world descriptor file 0) :
    (verifyDescriptor descriptor expected maximum requireMode).Ends platform.answer
      (fun outcome after =>
        match outcome with
        | .ok opened =>
            file.verifies expected maximum requireMode = true ∧
              opened.descriptor = descriptor ∧ opened.metadata = file.status ∧
              opened.checked = file.content ∧
              Stands before after descriptor file file.content.length
        | .error _ =>
            file.verifies expected maximum requireMode = false ∧
              ∃ offset, Stands before after descriptor file offset) world := by
  rw [verifyDescriptor]
  apply Raising.ends_bind (fstat_ends stands.description)
  · rintro metadata _ ⟨found, rfl⟩
    cases found
    split
    · next invalid => exact ⟨by simp [InputFile.verifies, invalid], 0, stands⟩
    · next valid =>
        apply Raising.ends_bind (readChunks_ends _ stands (List.take_zero).symm (Nat.zero_le _)
          (Nat.lt_succ_self _))
        · rintro checked after ⟨found, read⟩
          cases found
          split
          · next different => exact ⟨by simp [InputFile.verifies, different], _, read⟩
          · next same =>
              apply Raising.ends_bind (fstat_ends read.description)
              · rintro final _ ⟨found, rfl⟩
                cases found
                rw [if_neg (not_not_intro rfl)]
                refine ⟨?_, rfl, rfl, rfl, read⟩
                rw [InputFile.verifies, not_not.mp same]
                simpa using valid
              · rintro error _ ⟨found, -⟩
                cases found
        · rintro error after ⟨found, -⟩
          cases found
  · rintro error _ ⟨found, -⟩
    cases found

theorem openVerified_ends (path : String) (expected : FileEvidence) (maximum : Nat)
    (requireMode : Option Nat) (sound : world.files.Sound) :
    (openVerified path expected maximum requireMode).Ends platform.answer
      (fun outcome after => Exactly world after ∧
        match outcome with
        | .ok opened =>
            platform.verifies path expected maximum requireMode = true ∧
              ∃ file, platform.file path = some file ∧ opened.metadata = file.status ∧
                opened.checked = file.content ∧
                Stands world after opened.descriptor file file.content.length
        | .error _ => platform.verifies path expected maximum requireMode = false) world := by
  rw [openVerified, ends_perform, DriverPlatform.answer, DriverPlatform.verifies]
  cases found : platform.file path with
  | none => exact ⟨.refl sound, rfl⟩
  | some file =>
      have stands : Stands world { world with files := (world.files.openFile file).2 }
          world.files.descriptors.length file 0 :=
        { exactly :=
            { sound := OpenFiles.sound_openFile sound file
              kept := OpenFiles.kept_openFile world.files file
              handed := (Exactly.refl sound).handed }
          own := OpenFiles.own_openFile world.files file
          description := OpenFiles.description_openFile file }
      apply Raising.ends_handle (verifyDescriptor_ends expected maximum requireMode stands)
      intro outcome after checked
      cases outcome with
      | ok opened =>
          rcases checked with ⟨verified, same, metadata, checked, stands⟩
          rw [← same] at stands
          exact ⟨stands.exactly, verified, file, rfl, metadata, checked, stands⟩
      | error error =>
          rcases checked with ⟨refused, offset, stands⟩
          exact ⟨stands.close, refused⟩

/-! ## Loading -/

/-- A loader gets what the descriptor has not been read. -/
theorem loadDuplicate_ends (loader : Loader) {opened : OpenedFile} (error : String)
    (stands : Stands before world opened.descriptor file offset) :
    (loadDuplicate loader opened error).Ends platform.answer
      (fun _ after => after.files.Sound ∧ before.files.Kept after.files ∧
        after.handed =
          world.handed ++ [⟨loader, file.content.drop offset, opened.checked⟩]) world := by
  have kept := stands.exactly.kept
  have copyKept := kept.trans (OpenFiles.kept_duplicate world.files opened.descriptor)
  have copyOwn := OpenFiles.own_duplicate kept stands.own
  have copySound := OpenFiles.sound_duplicate stands.exactly.sound opened.descriptor
  have delivered : (world.files.duplicate opened.descriptor).2.unread InputFile.content
      world.files.descriptors.length = file.content.drop offset := by
    rw [OpenFiles.unread, OpenFiles.description_duplicate, stands.description]
  have copied : platform.answer (.dup opened.descriptor) world =
      (world.files.descriptors.length,
        { world with files := (world.files.duplicate opened.descriptor).2 }) := rfl
  have loaded : platform.answer (.load loader world.files.descriptors.length opened.checked)
      { world with files := (world.files.duplicate opened.descriptor).2 } =
        (platform.accepts loader (file.content.drop offset),
          { files := (world.files.duplicate opened.descriptor).2.seek
              world.files.descriptors.length (platform.leaves loader (file.content.drop offset))
            handed := world.handed ++
              [⟨loader, file.content.drop offset, opened.checked⟩] }) := by
    rw [DriverPlatform.answer]
    simp only [delivered]
  rw [loadDuplicate, ends_perform, copied]
  simp only
  rw [ends_perform, loaded]
  simp only
  rw [ends_perform]
  have closed : ∀ target,
      ((((world.files.duplicate opened.descriptor).2.seek world.files.descriptors.length
        target).close world.files.descriptors.length).Sound ∧
      before.files.Kept (((world.files.duplicate opened.descriptor).2.seek
        world.files.descriptors.length target).close world.files.descriptors.length)) := by
    intro target
    apply And.intro
    · exact OpenFiles.sound_close (OpenFiles.sound_seek copySound _ _) _
    · exact OpenFiles.kept_close (OpenFiles.kept_seek copyKept copyOwn _) copyOwn.number
  split
  · exact ⟨(closed _).1, (closed _).2, rfl⟩
  · exact ⟨(closed _).1, (closed _).2, rfl⟩

theorem loadDuplicate_exactly (loader : Loader) {opened : OpenedFile} (error : String)
    (stands : Stands before world opened.descriptor file 0)
    (checked : opened.checked = file.content) :
    (loadDuplicate loader opened error).Ends platform.answer
      (fun _ after => Exactly before after) world := by
  apply Raising.ends_mono (loadDuplicate_ends loader error stands)
  rintro _ after ⟨sound, kept, handed⟩
  rcases stands.exactly.handed with ⟨streams, equal, exact⟩
  refine ⟨sound, kept, streams ++ [⟨loader, file.content.drop 0, opened.checked⟩], ?_, ?_⟩
  · rw [handed, equal, List.append_assoc]
  · intro stream member
    rcases List.mem_append.mp member with old | new
    · exact exact stream old
    · rw [List.mem_singleton.mp new]
      exact checked.symm

theorem fstat_keeps (descriptor : Nat) (Fact : DriverWorld → Prop) (holds : Fact world) :
    (Driver.fstat descriptor).Ends platform.answer (fun _ after => Fact after) world := by
  rw [Driver.fstat, ends_perform, DriverPlatform.answer]
  cases world.files.description descriptor <;> exact holds

theorem requireOpenIdentity_keeps (opened : OpenedFile) (Fact : DriverWorld → Prop)
    (holds : Fact world) :
    (requireOpenIdentity opened).Ends platform.answer (fun _ after => Fact after) world := by
  rw [requireOpenIdentity]
  apply Raising.ends_bind (fstat_keeps opened.descriptor Fact holds)
  · intro status after fact
    split <;> exact fact
  · intro error after fact
    exact fact

theorem closing_exactly {Result : Type} {program : Driver Result}
    (number : before.files.descriptors.length ≤ descriptor)
    (ends : program.Ends platform.answer (fun _ after => Exactly before after) world) :
    (Driver.closing descriptor program).Ends platform.answer
      (fun _ after => Exactly before after) world := by
  apply Raising.ends_handle ends
  intro outcome after exactly
  rw [ends_perform]
  exact
    { sound := OpenFiles.sound_close exactly.sound descriptor
      kept := OpenFiles.kept_close exactly.kept number
      handed := exactly.handed }

/-- A verified file is rewound, loaded from a duplicate, and closed. -/
theorem rewound_exactly (loader : Loader) {opened : OpenedFile} (error : String)
    (stands : Stands before world opened.descriptor file offset)
    (checked : opened.checked = file.content) :
    (Driver.closing opened.descriptor (do
      Driver.perform (.rewind opened.descriptor)
      loadDuplicate loader opened error
      requireOpenIdentity opened)).Ends platform.answer
        (fun _ after => Exactly before after) world := by
  apply closing_exactly stands.own.number
  rw [ends_perform]
  apply Raising.ends_bind (loadDuplicate_exactly loader error (stands.seek 0) checked)
  · intro _ after exactly
    exact requireOpenIdentity_keeps opened _ exactly
  · intro _ after exactly
    exact exactly

theorem guardedTorchLoad_exactly (policies : List TorchLoadPolicy) (call : TorchLoadCall)
    (sound : world.files.Sound) :
    (guardedTorchLoad policies call).Ends platform.answer
      (fun _ after => Exactly world after) world := by
  rw [guardedTorchLoad]
  cases call.policy policies with
  | error error => exact Exactly.refl sound
  | ok policy =>
      apply Raising.ends_bind (openVerified_ends policy.path policy.evidence (8 * 1024 ^ 3)
        policy.requiredMode sound)
      · rintro opened after ⟨-, -, file, -, -, checked, stands⟩
        exact rewound_exactly .asset _ stands checked
      · rintro error after ⟨exactly, -⟩
        exact exactly

theorem readVerifiedPcm_exactly (item : ItemRequest) (sound : world.files.Sound) :
    (readVerifiedPcm item).Ends platform.answer (fun _ after => Exactly world after) world := by
  rw [readVerifiedPcm]
  apply Raising.ends_bind (openVerified_ends item.inputPath item.evidence (2 * 1024 ^ 3)
    (some 0o600) sound)
  · rintro opened after ⟨-, -, file, -, -, checked, stands⟩
    exact rewound_exactly .item _ stands checked
  · rintro error after ⟨exactly, -⟩
    exact exactly

/-- FAISS reads the file from its beginning, wherever the descriptor stands. -/
theorem readIndex_ends {opened : OpenedFile} (sound : world.files.Sound)
    (description : world.files.description opened.descriptor = some ⟨file, offset⟩)
    (checked : opened.checked = file.content) :
    (readIndex opened).Ends platform.answer
      (fun outcome after => Exactly world after ∧
        outcome.isOk = platform.accepts .index file.content) world := by
  have reopened : platform.answer (.reopen opened.descriptor) world =
      (some world.files.descriptors.length,
        { world with files := (world.files.openFile file).2 }) := by
    rw [DriverPlatform.answer, description]
    rfl
  have stands : Stands world { world with files := (world.files.openFile file).2 }
      world.files.descriptors.length file 0 :=
    { exactly :=
        { sound := OpenFiles.sound_openFile sound file
          kept := OpenFiles.kept_openFile world.files file
          handed := (Exactly.refl sound).handed }
      own := OpenFiles.own_openFile world.files file
      description := OpenFiles.description_openFile file }
  have loaded : platform.answer (.load .index world.files.descriptors.length opened.checked)
      { world with files := (world.files.openFile file).2 } =
        (platform.accepts .index file.content,
          { files := (world.files.openFile file).2.seek world.files.descriptors.length
              (platform.leaves .index file.content)
            handed := world.handed ++ [⟨.index, file.content, opened.checked⟩] }) := by
    rw [DriverPlatform.answer, OpenFiles.unread, OpenFiles.description_openFile]
    rfl
  have closed := (stands.seek (platform.leaves .index file.content)).close
  have exactly : Exactly world
      { files := ((world.files.openFile file).2.seek world.files.descriptors.length
          (platform.leaves .index file.content)).close world.files.descriptors.length
        handed := world.handed ++ [⟨.index, file.content, opened.checked⟩] } := by
    refine ⟨closed.sound, closed.kept, [⟨.index, file.content, opened.checked⟩], rfl, ?_⟩
    intro stream member
    rw [List.mem_singleton.mp member]
    exact checked.symm
  rw [readIndex, ends_perform, reopened]
  simp only
  rw [ends_perform, loaded]
  simp only
  rw [ends_perform]
  split
  · next accepted => exact ⟨exactly, accepted.symm⟩
  · next refused => exact ⟨exactly, (Bool.eq_false_of_not_eq_true refused).symm⟩

theorem requireOpenIdentity_ends {opened : OpenedFile}
    (description : world.files.description opened.descriptor = some ⟨file, offset⟩)
    (metadata : opened.metadata = file.status) :
    (requireOpenIdentity opened).Ends platform.answer
      (fun outcome after => outcome.isOk = true ∧ after = world) world := by
  rw [requireOpenIdentity]
  apply Raising.ends_bind (fstat_ends description)
  · rintro status _ ⟨found, rfl⟩
    cases found
    rw [metadata, if_neg (not_not_intro rfl)]
    exact ⟨rfl, rfl⟩
  · rintro error _ ⟨found, -⟩
    cases found

theorem verifyAsset_ends (path : String) (evidence : FileEvidence) (sound : world.files.Sound) :
    (verifyAsset path evidence).Ends platform.answer
      (fun outcome after => Exactly world after ∧
        outcome.isOk = platform.verifies path evidence (8 * 1024 ^ 3) (some 0o444)) world := by
  rw [verifyAsset]
  apply Raising.ends_bind (openVerified_ends path evidence (8 * 1024 ^ 3) (some 0o444) sound)
  · rintro opened after ⟨-, verified, file, -, metadata, -, stands⟩
    apply Raising.ends_handle (requireOpenIdentity_ends stands.description metadata)
    rintro outcome _ ⟨same, rfl⟩
    rw [ends_perform]
    exact ⟨stands.close, same.trans verified.symm⟩
  · rintro error after ⟨exactly, refused⟩
    exact ⟨exactly, refused.symm⟩

theorem assetPolicies_ends (assets : List AssetRequest) (sound : world.files.Sound) :
    (assetPolicies assets).Ends platform.answer
      (fun outcome after => Exactly world after ∧
        outcome.isOk = assets.all fun asset => asset.verified platform) world := by
  induction assets generalizing world with
  | nil => exact ⟨Exactly.refl sound, rfl⟩
  | cons asset assets induction =>
      rw [assetPolicies, List.all_cons, AssetRequest.verified]
      cases asset.evidence with
      | none => exact ⟨Exactly.refl sound, rfl⟩
      | some evidence =>
          simp only [Option.any_some]
          apply Raising.ends_bind (verifyAsset_ends asset.path evidence sound)
          · rintro _ after ⟨exactly, verified⟩
            apply Raising.ends_bind (induction exactly.sound)
            · rintro policies last ⟨later, all⟩
              refine ⟨exactly.trans later, ?_⟩
              rw [← verified, ← all]
              rfl
            · rintro error last ⟨later, all⟩
              refine ⟨exactly.trans later, ?_⟩
              rw [← verified, ← all]
              rfl
          · rintro error after ⟨exactly, refused⟩
            refine ⟨exactly, ?_⟩
            rw [← refused]
            rfl

theorem performActivities_exactly (policies : List TorchLoadPolicy)
    (activities : List DriverActivity) (sound : world.files.Sound) :
    (performActivities policies activities).Ends platform.answer
      (fun _ after => Exactly world after) world := by
  induction activities generalizing world with
  | nil => exact Exactly.refl sound
  | cons activity activities induction =>
      cases activity with
      | torchLoad call =>
          rw [performActivities]
          apply Raising.ends_bind (guardedTorchLoad_exactly policies call sound)
          · intro _ after exactly
            exact Raising.ends_mono (induction exactly.sound) fun _ _ later => exactly.trans later
          · intro _ after exactly
            exact exactly
      | readItem item =>
          rw [performActivities]
          apply Raising.ends_bind (readVerifiedPcm_exactly item sound)
          · intro _ after exactly
            exact Raising.ends_mono (induction exactly.sound) fun _ _ later => exactly.trans later
          · intro _ after exactly
            exact exactly

theorem reverifyAssets_exactly (policies : List TorchLoadPolicy) (sound : world.files.Sound) :
    (reverifyAssets policies).Ends platform.answer (fun _ after => Exactly world after) world := by
  induction policies generalizing world with
  | nil => exact Exactly.refl sound
  | cons policy policies induction =>
      rw [reverifyAssets]
      apply Raising.ends_bind (verifyAsset_ends policy.path policy.evidence sound)
      · rintro _ after ⟨exactly, -⟩
        exact Raising.ends_mono (induction exactly.sound) fun _ _ later => exactly.trans later
      · rintro _ after ⟨exactly, -⟩
        exact exactly

/-! ## The driver -/

def IndexReady (platform : DriverPlatform) (world : DriverWorld) (accepted : Bool) :
    Option OpenedFile → Prop
  | none => accepted = true
  | some opened => ∃ file offset,
      world.files.description opened.descriptor = some ⟨file, offset⟩ ∧
        opened.checked = file.content ∧ accepted = platform.accepts .index file.content

theorem prepareModel_ends (request : DriverRequest) {index : Option OpenedFile} {accepted : Bool}
    (sound : world.files.Sound) (ready : IndexReady platform world accepted index) :
    (prepareModel request index).Ends platform.answer
      (fun outcome after => Exactly world after ∧
        outcome.isOk = (accepted && (request.assets.all fun asset => asset.verified platform) &&
          request.crepe.isOk)) world := by
  have assets : ∀ {middle : DriverWorld}, Exactly world middle → accepted = true →
      (do
        let policies ← assetPolicies request.assets
        Raising.ofExcept request.crepe
        pure policies : Driver (List TorchLoadPolicy)).Ends platform.answer
          (fun outcome after => Exactly world after ∧
            outcome.isOk = (accepted && (request.assets.all fun asset => asset.verified platform) &&
              request.crepe.isOk)) middle := by
    intro middle early all
    rw [all]
    apply Raising.ends_bind (assetPolicies_ends request.assets early.sound)
    · rintro policies after ⟨exactly, verified⟩
      rw [← verified]
      cases request.crepe with
      | ok _ => exact ⟨early.trans exactly, rfl⟩
      | error error => exact ⟨early.trans exactly, rfl⟩
    · rintro error after ⟨exactly, refused⟩
      rw [← refused]
      exact ⟨early.trans exactly, rfl⟩
  cases index with
  | none => exact assets (Exactly.refl sound) ready
  | some opened =>
      rcases ready with ⟨file, offset, description, checked, accepts⟩
      rw [prepareModel]
      apply Raising.ends_bind (readIndex_ends sound description checked)
      · rintro _ after ⟨exactly, accepted_⟩
        exact assets exactly (accepts.trans accepted_.symm)
      · rintro error after ⟨exactly, refused⟩
        rw [accepts, ← refused]
        exact ⟨exactly, rfl⟩

/-- Some exact streams, with one of the model in between if it is loaded, which is empty. -/
def Streams (loaded : Bool) (checked : List UInt8) (before after : DriverWorld) : Prop :=
  ∃ early late, (∀ stream ∈ early ++ late, HandedStream.Exact stream) ∧
    after.handed = before.handed ++
      (early ++ (if loaded then [⟨.model, [], checked⟩] else []) ++ late)

theorem Exactly.streams (exactly : Exactly before world) (checked : List UInt8) :
    Streams false checked before world := by
  rcases exactly.handed with ⟨streams, equal, exact⟩
  refine ⟨streams, [], ?_, ?_⟩
  · rw [List.append_nil]
    exact exact
  · rw [equal, if_neg Bool.false_ne_true, List.append_nil, List.append_nil]

theorem Streams.of_handed {loaded : Bool} {checked : List UInt8} {after : DriverWorld}
    (streams : Streams loaded checked before world) (same : after.handed = world.handed) :
    Streams loaded checked before after := by
  rcases streams with ⟨early, late, exact, equal⟩
  exact ⟨early, late, exact, same.trans equal⟩

theorem Streams.after {loaded : Bool} {checked : List UInt8} {after : DriverWorld}
    (streams : Streams loaded checked world after) (exactly : Exactly before world) :
    Streams loaded checked before after := by
  rcases exactly.handed with ⟨first, firstEqual, firstExact⟩
  rcases streams with ⟨early, late, exact, equal⟩
  refine ⟨first ++ early, late, ?_, ?_⟩
  · intro stream member
    rw [List.append_assoc] at member
    rcases List.mem_append.mp member with old | new
    · exact firstExact stream old
    · exact exact stream new
  · rw [equal, firstEqual]
    simp only [List.append_assoc]

theorem convertItems_exactly (request : DriverRequest) (policies : List TorchLoadPolicy)
    (model : OpenedFile) (index : Option OpenedFile) (sound : world.files.Sound) :
    (convertItems request policies model index).Ends platform.answer
      (fun _ after => Exactly world after) world := by
  rw [convertItems]
  apply Raising.ends_bind (performActivities_exactly policies request.activities sound)
  · intro _ middle early
    apply Raising.ends_bind (reverifyAssets_exactly policies early.sound)
    · intro _ next between
      apply Raising.ends_bind
        (requireOpenIdentity_keeps model (Exactly world) (early.trans between))
      · intro _ last later
        cases index with
        | none => exact later
        | some opened => exact requireOpenIdentity_keeps opened (Exactly world) later
      · intro _ last later
        exact later
    · intro _ next between
      exact early.trans between
  · intro _ after exactly
    exact exactly

/-- What follows the model is exact again. -/
theorem runInference_ends (request : DriverRequest) {model : OpenedFile}
    {index : Option OpenedFile} {accepted : Bool} {start : DriverWorld}
    (stands : Stands start world model.descriptor file file.content.length)
    (checked : model.checked = file.content)
    (ready : IndexReady platform world accepted index) :
    (runInference request model index).Ends platform.answer
      (fun _ after => Streams
        (accepted && (request.assets.all fun asset => asset.verified platform) &&
          request.crepe.isOk) file.content world after) world := by
  rw [runInference]
  apply Raising.ends_bind (prepareModel_ends request stands.exactly.sound ready)
  · rintro policies middle ⟨early, passed⟩
    have passed : true = _ := passed
    rw [← passed]
    have modelStands : Stands start middle model.descriptor file file.content.length :=
      { exactly := stands.exactly.trans early
        own := stands.own.later early.kept
        description := early.kept.description_eq stands.exactly.sound stands.description }
    rcases early.handed with ⟨streams, equal, exact⟩
    have loaded : ∀ {last : DriverWorld}, last.handed =
        middle.handed ++ [⟨.model, file.content.drop file.content.length, model.checked⟩] →
        Streams true file.content world last := by
      intro last handed
      refine ⟨streams, [], ?_, ?_⟩
      · rw [List.append_nil]
        exact exact
      · rw [handed, equal, checked, List.drop_length, if_pos rfl, List.append_nil,
          List.append_assoc]
    apply Raising.ends_bind (loadDuplicate_ends .model _ modelStands)
    · rintro _ next ⟨sound, kept, handed⟩
      apply Raising.ends_mono (convertItems_exactly request policies model index sound)
      intro _ last later
      rcases later.handed with ⟨more, moreEqual, moreExact⟩
      rcases loaded handed with ⟨earlier, between, exact_, equal_⟩
      refine ⟨earlier, between ++ more, ?_, ?_⟩
      · intro stream member
        rw [← List.append_assoc] at member
        rcases List.mem_append.mp member with old | new
        · exact exact_ stream old
        · exact moreExact stream new
      · rw [moreEqual, equal_]
        simp only [List.append_assoc]
    · rintro error next ⟨-, -, handed⟩
      exact loaded handed
  · rintro error after ⟨exactly, refused⟩
    have refused : false = _ := refused
    rw [← refused]
    exact exactly.streams file.content

theorem closeIndex_keeps (index : Option OpenedFile) {checked : List UInt8} {loaded : Bool}
    (streams : Streams loaded checked before world) :
    (closeIndex index).Ends platform.answer
      (fun _ after => Streams loaded checked before after) world := by
  cases index with
  | none => exact streams
  | some opened => exact streams.of_handed rfl

theorem openIndex_ends (index : Option (String × FileEvidence)) (sound : world.files.Sound) :
    (openIndex index).Ends platform.answer
      (fun outcome after => Exactly world after ∧
        match outcome with
        | .ok opened => IndexReady platform after (platform.readsIndex index) opened
        | .error _ => platform.readsIndex index = false) world := by
  cases index with
  | none => exact ⟨Exactly.refl sound, rfl⟩
  | some index =>
      rcases index with ⟨path, evidence⟩
      rw [openIndex, DriverPlatform.readsIndex, Option.all_some]
      apply Raising.ends_bind (openVerified_ends path evidence (16 * 1024 ^ 3) none sound)
      · rintro opened after ⟨exactly, verified, file, found, -, checked, stands⟩
        refine ⟨exactly, file, _, stands.description, checked, ?_⟩
        rw [verified, found]
        rfl
      · rintro error after ⟨exactly, refused⟩
        exact ⟨exactly, by rw [refused]; rfl⟩

/-- No file without content is verified. -/
theorem content_ne_nil {expected : FileEvidence} {maximum : Nat} {requireMode : Option Nat}
    (verified : file.verifies expected maximum requireMode = true) : file.content ≠ [] := by
  intro empty
  rw [InputFile.verifies, metadataInvalid, InputFile.status, empty] at verified
  simp at verified

/-- Everything before the model passes its checks exactly if the model is loaded. -/
theorem executeRequest_ends (request : DriverRequest) {start : DriverWorld}
    (sound : start.files.Sound) :
    (executeRequest request).Ends platform.answer
      (fun _ after => ∃ checked,
        (platform.loadsModel request = true → checked ≠ []) ∧
          Streams (platform.loadsModel request) checked start after) start := by
  rw [executeRequest]
  apply Raising.ends_bind (openVerified_ends request.modelPath request.modelEvidence
    (2 * 1024 ^ 3) none sound)
  · rintro model world ⟨opened, verified, file, found, -, checked, stands⟩
    have ended : ∀ {loaded : Bool} {last : DriverWorld}, Streams loaded file.content start last →
        loaded = platform.loadsModel request →
        ∃ checked, (platform.loadsModel request = true → checked ≠ []) ∧
          Streams (platform.loadsModel request) checked start last := by
      rintro loaded last streams rfl
      refine ⟨file.content, fun _ => ?_, streams⟩
      rw [DriverPlatform.verifies, found] at verified
      exact content_ne_nil verified
    have prepared : (do
        Raising.ofExcept request.settings
        openIndex request.index : Driver (Option OpenedFile)).Ends platform.answer
          (fun outcome after => Exactly world after ∧
            match outcome with
            | .ok index => request.settings.isOk = true ∧
                IndexReady platform after (platform.readsIndex request.index) index
            | .error _ => (request.settings.isOk && platform.readsIndex request.index) = false)
          world := by
      cases request.settings with
      | ok _ =>
          apply Raising.ends_mono (openIndex_ends request.index opened.sound)
          rintro outcome after ⟨exactly, ready⟩
          cases outcome with
          | ok index => exact ⟨exactly, rfl, ready⟩
          | error error => exact ⟨exactly, ready⟩
      | error error => exact ⟨Exactly.refl opened.sound, rfl⟩
    apply Raising.ends_handle prepared
    rintro outcome after ⟨early, ready⟩
    cases outcome with
    | error error =>
        rw [ends_perform]
        apply ended ((opened.trans early).streams file.content |>.of_handed rfl)
        rw [DriverPlatform.loadsModel, verified, Bool.true_and, ready]
        rfl
    | ok index =>
        rcases ready with ⟨settings, ready⟩
        have modelStands : Stands start after model.descriptor file file.content.length :=
          { exactly := stands.exactly.trans early
            own := stands.own.later early.kept
            description := early.kept.description_eq stands.exactly.sound stands.description }
        apply Raising.ends_handle (runInference_ends request modelStands checked ready)
        intro outcome next streams
        rw [ends_perform]
        have closed : Streams _ file.content start
            { next with files := next.files.close model.descriptor } :=
          (streams.after (opened.trans early)).of_handed rfl
        apply Raising.ends_bind (closeIndex_keeps index closed)
        · intro _ last lastStreams
          apply ended lastStreams
          rw [DriverPlatform.loadsModel, verified, settings, Bool.true_and, Bool.true_and]
        · intro _ last lastStreams
          apply ended lastStreams
          rw [DriverPlatform.loadsModel, verified, settings, Bool.true_and, Bool.true_and]
  · rintro error after ⟨exactly, refused⟩
    have notLoaded : platform.loadsModel request = false := by
      rw [DriverPlatform.loadsModel, refused]
      rfl
    rw [notLoaded]
    refine ⟨[], ?_, exactly.streams []⟩
    intro loaded
    cases loaded

end

/-! ## What the loaders get -/

/-- Every stream of an index, an asset or an item delivers what was checked. That of the model does
not, so that all streams are exact only if something is refused before the model is loaded. -/
theorem verified_bytes_iff (platform : DriverPlatform) (request : DriverRequest) :
    (∀ stream ∈ platform.handed request, stream.loader ≠ .model →
        stream.delivered = stream.checked) ∧
      ((∀ stream ∈ platform.handed request, stream.delivered = stream.checked) ↔
        platform.loadsModel request = false) := by
  have sound : DriverPlatform.start.files.Sound := OpenFiles.sound_none
  rcases @executeRequest_ends platform request DriverPlatform.start sound with
    ⟨checked, nonempty, early, late, exact, handed⟩
  have handed : platform.handed request = early ++
      (if platform.loadsModel request then [⟨.model, [], checked⟩] else []) ++ late := handed
  have eachIs : ∀ stream ∈ platform.handed request, stream.delivered = stream.checked ∨
      (platform.loadsModel request = true ∧ stream = ⟨.model, [], checked⟩) := by
    intro stream member
    rw [handed] at member
    rcases List.mem_append.mp member with member | member
    · rcases List.mem_append.mp member with member | member
      · exact Or.inl (exact stream (List.mem_append_left _ member))
      · split at member
        · next loaded => exact Or.inr ⟨loaded, List.mem_singleton.mp member⟩
        · cases member
    · exact Or.inl (exact stream (List.mem_append_right _ member))
  constructor
  · intro stream member other
    rcases eachIs stream member with same | ⟨-, rfl⟩
    · exact same
    · exact absurd rfl other
  · constructor
    · intro all
      by_contra loaded
      rw [Bool.not_eq_false] at loaded
      have member : (⟨.model, [], checked⟩ : HandedStream) ∈ platform.handed request := by
        rw [handed, if_pos loaded]
        simp
      exact nonempty loaded (all _ member).symm
    · intro refused stream member
      rcases eachIs stream member with same | ⟨loaded, -⟩
      · exact same
      · rw [refused] at loaded
        cases loaded

/-! ## A model that is never read -/

/-- There is one file, of one byte, and every loader accepts what it gets. -/
def oneFilePlatform : DriverPlatform where
  file path := if path = "final_small_model.pth" then some ⟨true, 0o600, 1, 1, 0, [1]⟩ else none
  amount available := available
  amount_pos _ some := some
  amount_le _ := le_rfl
  accepts _ _ := true
  leaves _ delivered := delivered.length

def modelRequest : DriverRequest where
  modelPath := "final_small_model.pth"
  modelEvidence := ⟨1, Sha256.hexDigest [1]⟩
  settings := .ok ()
  index := none
  assets := []
  crepe := .ok ()
  activities := []

/-- The stream of the model is empty. -/
theorem not_always_verified_bytes :
    ¬∀ (platform : DriverPlatform) (request : DriverRequest),
      ∀ stream ∈ platform.handed request, stream.delivered = stream.checked := by
  intro always
  have handed : oneFilePlatform.handed modelRequest = [⟨.model, [], [1]⟩] := by
    decide +kernel
  have exact := always oneFilePlatform modelRequest ⟨.model, [], [1]⟩ (by rw [handed]; simp)
  cases exact

end RvcOrchestrator.Worker

import RvcOrchestrator.Foundation.Procedure
import RvcOrchestrator.Foundation.Sha256

/-! # Downloads of a Worker

The body of a response is written to a partial file, which a hard link publishes. Every call of the
operating system is made in a thread that runs to its end; whoever waits for it may be cancelled
meanwhile, and then does not learn that it has returned.
-/

namespace RvcOrchestrator.Worker

open RvcOrchestrator.Foundation

/-! ## The file system -/

structure DestinationEntry where
  regular : Bool
  mode : Nat
  content : List UInt8
deriving DecidableEq

inductive Incident where
  /-- The partial file has been created, and `fstat` or `fchmod` fails. -/
  | openingFailed
  | closeFailed
  | closeCancelled
deriving DecidableEq

structure TransferWorld where
  destination : Option DestinationEntry
  /-- The partial file of the call, while there is one. -/
  partialFile : Option (List UInt8)
  /-- What the descriptor of the destination has not been read. -/
  unread : List UInt8
  /-- The descriptors the call has opened have the numbers below. -/
  opened : Nat
  /-- The number of every `os.close`. -/
  closed : List Nat
  incidents : List Incident
  /-- So many calls have been made. -/
  moment : Nat
deriving DecidableEq

structure TransferChoice where
  fails : Bool
  cancelled : Bool
  amount : Nat

inductive CriticalFunction where
  | openPartial
  | writeAll
  | fsync
  | close
  | publish
  | cleanup
deriving DecidableEq

inductive TransferCall where
  | makeParent
  | lstatParent
  | openPartial
  | fstatPartial (descriptor : Nat)
  | fchmod (descriptor : Nat)
  | write (descriptor : Nat) (bytes : List UInt8)
  | fsync (descriptor : Nat)
  /-- `os.close` of the partial file, whose descriptor the task still knows. -/
  | closePartial (descriptor : Nat)
  | close (descriptor : Nat)
  | link
  | openDestination
  | fstatDestination (descriptor : Nat)
  | readDestination (descriptor : Nat)
  | unlinkPartial
  | openDirectory
  /-- The task has waited for a thread. -/
  | await (function : CriticalFunction)
  /-- The task waits for the next chunk. -/
  | receive

inductive LinkReply where
  | linked
  | exists_
  | failed
deriving DecidableEq

inductive OpenReply where
  | missing
  | failed
  | opened (descriptor : Nat)
deriving DecidableEq

inductive TransferError where
  | transfer (message : String)
  | os
  | network
  | cancelled
deriving DecidableEq

abbrev TransferCall.Reply : TransferCall → Type
  | .makeParent => Bool
  | .lstatParent => Option Bool
  | .openPartial => Option Nat
  | .fstatPartial _ => Option Bool
  | .fchmod _ => Bool
  | .write _ _ => Option Nat
  | .fsync _ => Bool
  | .closePartial _ => Bool
  | .close _ => Bool
  | .link => LinkReply
  | .openDestination => OpenReply
  | .fstatDestination _ => Option DestinationEntry
  | .readDestination _ => Option (List UInt8)
  | .unlinkPartial => Unit
  | .openDirectory => Option Nat
  | .await _ => Bool
  | .receive => Except TransferError Unit

namespace TransferWorld

def opening (world : TransferWorld) : TransferWorld := { world with opened := world.opened + 1 }

def closing (world : TransferWorld) (descriptor : Nat) : TransferWorld :=
  { world with closed := world.closed ++ [descriptor] }

def incident (world : TransferWorld) (happens : Bool) (incident : Incident) : TransferWorld :=
  if happens then { world with incidents := world.incidents ++ [incident] } else world

end TransferWorld

def incidentOf (choice : TransferChoice) : TransferCall → Option Incident
  | .fstatPartial _ => if choice.fails then some .openingFailed else none
  | .fchmod _ => if choice.fails then some .openingFailed else none
  | .closePartial _ => if choice.fails then some .closeFailed else none
  | .await function =>
      if choice.cancelled && function = .close then some .closeCancelled else none
  | _ => none

/-- A descriptor is closed even if `os.close` fails. A file that has been created is regular, and a
link to a name that exists is refused. -/
def performTransfer (choice : TransferChoice) (world : TransferWorld) :
    (call : TransferCall) → call.Reply × TransferWorld
  | .makeParent => (!choice.fails, world)
  | .lstatParent => (if choice.fails then none else some (choice.amount = 0), world)
  | .openPartial =>
      if choice.fails then (none, world)
      else (some world.opened, { world.opening with partialFile := some [] })
  | .fstatPartial _ =>
      (if choice.fails then none else some true, world.incident choice.fails .openingFailed)
  | .fchmod _ => (!choice.fails, world.incident choice.fails .openingFailed)
  | .write _ bytes =>
      if choice.fails then (none, world)
      else
        (some (bytes.take choice.amount).length,
          { world with
            partialFile := world.partialFile.map fun content =>
              content ++ bytes.take choice.amount })
  | .fsync _ => (!choice.fails, world)
  | .closePartial descriptor =>
      (!choice.fails, (world.closing descriptor).incident choice.fails .closeFailed)
  | .close descriptor => (!choice.fails, world.closing descriptor)
  | .link =>
      if choice.fails then (.failed, world)
      else
        match world.destination, world.partialFile with
        | some _, _ => (.exists_, world)
        | none, none => (.failed, world)
        | none, some content =>
            (.linked, { world with destination := some ⟨true, 0o600, content⟩ })
  | .openDestination =>
      if choice.fails then (.failed, world)
      else
        match world.destination with
        | none => (.missing, world)
        | some entry => (.opened world.opened, { world.opening with unread := entry.content })
  | .fstatDestination _ => (if choice.fails then none else world.destination, world)
  | .readDestination _ =>
      if choice.fails then (none, world)
      else
        (some (world.unread.take (choice.amount + 1)),
          { world with unread := world.unread.drop (choice.amount + 1) })
  | .unlinkPartial => ((), { world with partialFile := none })
  | .openDirectory => if choice.fails then (none, world) else (some world.opened, world.opening)
  | .await function =>
      (choice.cancelled,
        world.incident (choice.cancelled && function = .close) .closeCancelled)
  | .receive =>
      (if choice.cancelled then .error .cancelled
        else if choice.fails then .error .network
        else .ok (), world)

/-- The surroundings choose anew at every call. -/
def answerTransfer (choices : Nat → TransferChoice) (call : TransferCall) (world : TransferWorld) :
    call.Reply × TransferWorld :=
  performTransfer (choices world.moment) { world with moment := world.moment + 1 } call

/-! ## Programs -/

abbrev Transfer (Result : Type) := Raising TransferCall TransferCall.Reply TransferError Result

namespace Transfer

def perform (call : TransferCall) : Transfer call.Reply :=
  Procedure.perform call fun reply => .done (.ok reply)

def raise {Result : Type} (error : TransferError) : Transfer Result := Raising.raise error

/-- A call that fails raises `OSError`. -/
def require (call : Transfer Bool) : Transfer Unit := do
  if ← call then pure () else raise .os

def present {Result : Type} (call : Transfer (Option Result)) : Transfer Result := do
  match ← call with
  | none => raise .os
  | some result => pure result

def makeParent : Transfer Unit := require (perform .makeParent)

def lstatParent : Transfer Bool := present (perform .lstatParent)

def openPartial : Transfer Nat := present (perform .openPartial)

def fstatPartial (descriptor : Nat) : Transfer Bool := present (perform (.fstatPartial descriptor))

def fchmod (descriptor : Nat) : Transfer Unit := require (perform (.fchmod descriptor))

def write (descriptor : Nat) (bytes : List UInt8) : Transfer Nat :=
  present (perform (.write descriptor bytes))

def fsync (descriptor : Nat) : Transfer Unit := require (perform (.fsync descriptor))

def closePartial (descriptor : Nat) : Transfer Unit := require (perform (.closePartial descriptor))

def close (descriptor : Nat) : Transfer Unit := require (perform (.close descriptor))

def link : Transfer LinkReply := perform .link

def openDestination : Transfer OpenReply := perform .openDestination

def fstatDestination (descriptor : Nat) : Transfer DestinationEntry :=
  present (perform (.fstatDestination descriptor))

def readDestination (descriptor : Nat) : Transfer (List UInt8) :=
  present (perform (.readDestination descriptor))

def unlinkPartial : Transfer Unit := perform .unlinkPartial

def openDirectory : Transfer Nat := present (perform .openDirectory)

/-- Whether the task has been cancelled while it waited. -/
def await (function : CriticalFunction) : Transfer Bool := perform (.await function)

def receive : Transfer Unit := do
  Raising.ofExcept (← perform .receive)

/-- `try` with `finally`. -/
def finally_ {Result : Type} (ending : Transfer Unit) (program : Transfer Result) :
    Transfer Result :=
  program.handle fun outcome => do
    ending
    Raising.ofExcept outcome

end Transfer

/-- `_critical_to_thread`: the thread is joined, however often its task is cancelled. A result that
the task does not get is cleaned up, and nothing is said if that fails. -/
def criticalToThread {Result : Type} (name : CriticalFunction)
    (cancelCleanup : Result → Transfer Unit) (function : Transfer Result) : Transfer Result :=
  function.handle fun outcome => do
    let cancelled ← Transfer.await name
    if cancelled then
      match outcome with
      | .error _ => Transfer.raise .cancelled
      | .ok result => (cancelCleanup result).handle fun _ => Transfer.raise .cancelled
    else Raising.ofExcept outcome

/-- The partial file is that of the call. -/
def cleanupTransferPartial (descriptor : Option Nat) (partial_ : Bool) : Transfer Unit := do
  match descriptor with
  | none => pure ()
  | some descriptor => (Transfer.close descriptor).handle fun _ => pure ()
  if partial_ then Transfer.unlinkPartial else pure ()

def discardOpenedPartial (descriptor : Nat) : Transfer Unit :=
  cleanupTransferPartial (some descriptor) true

/-- What the dataset's and the test set's functions do differently. -/
structure TransferKind where
  /-- How their messages begin. -/
  subject : String
  /-- The mode that an existing file must have. -/
  requiredMode : Option Nat

def datasetKind : TransferKind := ⟨"Dataset", none⟩

def testSetKind : TransferKind := ⟨"TestSet", some 0o600⟩

namespace TransferKind

variable (kind : TransferKind)

def error {Result : Type} (message : String) : Transfer Result :=
  Transfer.raise (.transfer (kind.subject ++ message))

def existingError {Result : Type} (message : String) : Transfer Result :=
  Transfer.raise (.transfer ("existing " ++ kind.subject ++ message))

/-- `_open_dataset_partial` and `_open_test_set_partial`. -/
def openPartial (safeName : Bool) : Transfer Nat := do
  if !safeName then kind.error " destination is unsafe"
  else
    Transfer.makeParent
    let directory ← Transfer.lstatParent
    if !directory then kind.error " destination directory is unsafe"
    else
      let descriptor ← Transfer.openPartial
      let regular ← Transfer.fstatPartial descriptor
      if !regular then
        Transfer.close descriptor
        Transfer.unlinkPartial
        kind.error " partial file is not regular"
      else
        Transfer.fchmod descriptor
        pure descriptor

/-- The loop over `os.read`, which goes on until nothing is read. -/
def readDestination (descriptor : Nat) : Nat → List UInt8 → Transfer (List UInt8)
  | 0, content => pure content
  | fuel + 1, content => do
      let chunk ← Transfer.readDestination descriptor
      if chunk = [] then pure content else readDestination descriptor fuel (content ++ chunk)

/-- A file of this size has been read to its end after so many reads. -/
def verifyDestination (descriptor expectedSize : Nat) : Transfer (List UInt8) :=
  Transfer.finally_ (Transfer.close descriptor)
    (Raising.handle
      (fun
        | .error .os => kind.existingError " destination cannot be verified"
        | outcome => Raising.ofExcept outcome)
      (do
        let metadata ← Transfer.fstatDestination descriptor
        if !metadata.regular || metadata.content.length ≠ expectedSize ||
            kind.requiredMode.any (· ≠ metadata.mode) then
          kind.existingError " destination is invalid"
        else readDestination descriptor (expectedSize + 1) []))

/-- `_existing_dataset_is_valid` and `_existing_test_set_item_is_valid`. -/
def existingIsValid (expectedSize : Nat) (expectedSha256 : String) : Transfer Bool := do
  match ← Transfer.openDestination with
  | .missing => pure false
  | .failed => kind.existingError " destination is unsafe"
  | .opened descriptor => do
      let content ← kind.verifyDestination descriptor expectedSize
      if Sha256.hexDigest content ≠ expectedSha256 then
        kind.existingError " destination checksum is invalid"
      else pure true

/-- `_publish_dataset_partial` and `_publish_test_set_partial`. -/
def publishPartial (expectedSize : Nat) (expectedSha256 : String) : Transfer Unit := do
  Transfer.finally_ Transfer.unlinkPartial do
    match ← Transfer.link with
    | .linked => pure ()
    | .exists_ => do
        let _ ← kind.existingIsValid expectedSize expectedSha256
        pure ()
    | .failed => kind.error " file could not be atomically published"
  let directory ← Transfer.openDirectory
  Transfer.finally_ (Transfer.close directory) (Transfer.fsync directory)

end TransferKind

def writeAll (descriptor : Nat) : Nat → List UInt8 → Transfer Unit
  | _, [] => pure ()
  | 0, _ :: _ => pure ()
  | fuel + 1, view => do
      let written ← Transfer.write descriptor view
      if written = 0 then Transfer.raise .os
      else writeAll descriptor fuel (view.drop written)

def noCleanup {Result : Type} (_ : Result) : Transfer Unit := pure ()

/-! ## Responses -/

structure TransferHeaders where
  contentLength : Option String
  contentType : Option String
  contentEncoding : Option String

/-- The texts that the standard library makes: `int`, the part of a content type before the first
semicolon, and `strip` with `lower`. -/
structure HeaderText where
  int : String → Option Int
  mediaType : String → String
  normalized : String → String

structure TransferRequest where
  safeName : Bool
  headers : TransferHeaders
  chunks : List (List UInt8)
  expectedSize : Nat
  expectedSha256 : String
  expectedContentType : String

namespace TransferKind

variable (kind : TransferKind)

def checkHeaders (text : HeaderText) (request : TransferRequest) : Except TransferError Unit :=
  let error (message : String) : Except TransferError Unit :=
    .error (.transfer (kind.subject ++ message))
  let declared := match request.headers.contentLength with
    | none => some (-1)
    | some raw => text.int raw
  match declared with
  | none => error " response has an invalid Content-Length"
  | some declared =>
      if declared ≠ request.expectedSize then
        error " response Content-Length does not match the claim"
      else if text.normalized (text.mediaType (request.headers.contentType.getD "")) ≠
          request.expectedContentType then
        error " response Content-Type does not match the claim"
      else if text.normalized (request.headers.contentEncoding.getD "identity") ∉
          ["", "identity"] then
        .error (.transfer ("encoded " ++ kind.subject ++ " responses are forbidden"))
      else .ok ()

def receiveChunks (descriptor expectedSize : Nat) :
    List (List UInt8) → List UInt8 → Transfer (List UInt8)
  | [], received => do
      Transfer.receive
      pure received
  | chunk :: chunks, received => do
      Transfer.receive
      if chunk = [] then receiveChunks descriptor expectedSize chunks received
      else if expectedSize < received.length + chunk.length then
        kind.error " response exceeds the declared size"
      else
        criticalToThread .writeAll noCleanup (writeAll descriptor chunk.length chunk)
        receiveChunks descriptor expectedSize chunks (received ++ chunk)

structure Belief where
  descriptor : Option Nat
  partial_ : Bool

/-- `except` and `finally` of the function. -/
def endTransfer (belief : Belief) (outcome : Except TransferError Unit) : Transfer Unit := do
  Transfer.finally_
    (if belief.descriptor.isSome || belief.partial_ then
      criticalToThread .cleanup noCleanup
        (cleanupTransferPartial belief.descriptor belief.partial_)
    else pure ())
    (match outcome with
      | .error .os => kind.error " file could not be published safely"
      | outcome => Raising.ofExcept outcome)

def fillPartial (request : TransferRequest) (descriptor : Nat) : Transfer Unit := do
  let received ← kind.receiveChunks descriptor request.expectedSize request.chunks []
  if received.length ≠ request.expectedSize then
    kind.error " response ended before the declared size"
  else if Sha256.hexDigest received ≠ request.expectedSha256 then
    kind.error " response checksum does not match the claim"
  else
    criticalToThread .fsync noCleanup (Transfer.fsync descriptor)
    criticalToThread .close noCleanup (Transfer.closePartial descriptor)

def streamResponse (text : HeaderText) (request : TransferRequest) : Transfer Unit := do
  Raising.ofExcept (kind.checkHeaders text request)
  Raising.handle
    (fun
      | .error error => kind.endTransfer ⟨none, false⟩ (.error error)
      | .ok descriptor =>
          (kind.fillPartial request descriptor).handle fun
            | .error error => kind.endTransfer ⟨some descriptor, true⟩ (.error error)
            | .ok () =>
                (criticalToThread .publish noCleanup
                  (kind.publishPartial request.expectedSize request.expectedSha256)).handle fun
                    | .error error => kind.endTransfer ⟨none, true⟩ (.error error)
                    | .ok () => kind.endTransfer ⟨none, false⟩ (.ok ()))
    (criticalToThread .openPartial discardOpenedPartial (kind.openPartial request.safeName))

end TransferKind

def streamDatasetResponse : HeaderText → TransferRequest → Transfer Unit :=
  datasetKind.streamResponse

def streamTestSetResponse : HeaderText → TransferRequest → Transfer Unit :=
  testSetKind.streamResponse

/-! ## What a download leaves behind -/

def Claimed (request : TransferRequest) (destination : Option DestinationEntry) : Prop :=
  ∃ entry, destination = some entry ∧ entry.regular = true ∧
    entry.content.length = request.expectedSize ∧
    Sha256.hexDigest entry.content = request.expectedSha256

def Settled (world : TransferWorld) : Prop :=
  world.closed.Perm (List.range world.opened)

structure AllOrNothing (request : TransferRequest) (before : Option DestinationEntry)
    (outcome : Except TransferError Unit) (after : TransferWorld) : Prop where
  destination : after.destination = before ∨ Claimed request after.destination
  returned : outcome = .ok () → Claimed request after.destination
  noPartial : after.partialFile = none
  descriptors : Settled after

def startTransfer (destination : Option DestinationEntry) : TransferWorld where
  destination := destination
  partialFile := none
  unread := []
  opened := 0
  closed := []
  incidents := []
  moment := 0

section

variable {choices : Nat → TransferChoice} {world : TransferWorld} {descriptor : Nat}

/-- Nothing has gone wrong so far, and all descriptors have been closed once but for one, if one is
open. -/
structure Stage (destination : Option DestinationEntry) (partialFile : Option (List UInt8))
    (held : Option Nat) (world : TransferWorld) : Prop where
  incidents : world.incidents = []
  destination : world.destination = destination
  partialFile : world.partialFile = partialFile
  held : (held.toList ++ world.closed).Perm (List.range world.opened)

structure Spoiled (world : TransferWorld) : Prop where
  incidents : world.incidents ≠ []
  left : world.partialFile ≠ none ∨ ¬Settled world

structure Misled (descriptor : Nat) (world : TransferWorld) : Prop where
  incidents : world.incidents ≠ []
  closed : descriptor ∈ world.closed

structure Twice (world : TransferWorld) : Prop where
  incidents : world.incidents ≠ []
  unsettled : ¬Settled world

/-- What counts of a world is not which calls it has had. -/
def Steady (Fact : TransferWorld → Prop) : Prop :=
  ∀ world moment, Fact world → Fact { world with moment }

variable {destination : Option DestinationEntry} {partialFile : Option (List UInt8)}
  {held : Option Nat} {content : List UInt8}

theorem steady_stage : Steady (Stage destination partialFile held) := fun _ _ stage =>
  ⟨stage.incidents, stage.destination, stage.partialFile, stage.held⟩

theorem steady_spoiled : Steady Spoiled := fun _ _ spoiled => ⟨spoiled.incidents, spoiled.left⟩

theorem steady_misled : Steady (Misled descriptor) := fun _ _ misled =>
  ⟨misled.incidents, misled.closed⟩

theorem Stage.settled (stage : Stage destination partialFile none world) : Settled world :=
  stage.held

theorem Stage.opening (stage : Stage destination partialFile none world) :
    Stage destination partialFile (some world.opened) world.opening where
  incidents := stage.incidents
  destination := stage.destination
  partialFile := stage.partialFile
  held := by
    rw [TransferWorld.opening, List.range_succ]
    exact (List.perm_append_singleton _ _).symm.trans (stage.settled.append_right _)

theorem Stage.closing (stage : Stage destination partialFile (some descriptor) world) :
    Stage destination partialFile none (world.closing descriptor) where
  incidents := stage.incidents
  destination := stage.destination
  partialFile := stage.partialFile
  held := (List.perm_append_singleton _ _).trans stage.held

/-- A descriptor that is closed twice is not closed once. -/
theorem Misled.closing (misled : Misled descriptor world) : Twice (world.closing descriptor) where
  incidents := misled.incidents
  unsettled := by
    intro settled
    have distinct := settled.nodup_iff.mpr List.nodup_range
    rw [TransferWorld.closing, List.nodup_append] at distinct
    exact distinct.2.2 descriptor misled.closed descriptor (List.mem_singleton_self _) rfl

theorem incident_ne_nil (world : TransferWorld) (incident : Incident) :
    (world.incident true incident).incidents ≠ [] := by
  rw [TransferWorld.incident, if_pos rfl]
  exact List.append_ne_nil_of_right_ne_nil _ (List.cons_ne_nil _ _)

/-- The partial file is left behind. -/
theorem Stage.spoiled (stage : Stage destination (some content) held world) (moment : Nat)
    (incident : Incident) :
    Spoiled (({ world with moment } : TransferWorld).incident true incident) where
  incidents := incident_ne_nil _ incident
  left := by
    apply Or.inl
    rw [TransferWorld.incident, if_pos rfl]
    simp only
    rw [stage.partialFile]
    exact Option.some_ne_none content

/-! ### Calls -/

section

variable {Result : Type} {Ensures : Except TransferError Result → TransferWorld → Prop}

/-- The surroundings may choose anything. -/
theorem perform_ends (call : TransferCall)
    {Required : Except TransferError call.Reply → TransferWorld → Prop}
    (required : ∀ choice : TransferChoice,
      let answer := performTransfer choice { world with moment := world.moment + 1 } call
      Required (.ok answer.1) answer.2) :
    (Transfer.perform call).Ends (answerTransfer choices) Required world :=
  required (choices world.moment)

theorem require_ends {Required : Except TransferError Unit → TransferWorld → Prop}
    {program : Transfer Bool}
    (ends : program.Ends (answerTransfer choices)
      (fun outcome after => ∃ succeeded, outcome = .ok succeeded ∧
        Required (if succeeded then .ok () else .error .os) after) world) :
    (Transfer.require program).Ends (answerTransfer choices) Required world := by
  apply Raising.ends_bind ends
  · rintro succeeded after ⟨_, same, required⟩
    rw [← Except.ok.inj same] at required
    cases succeeded <;> exact required
  · rintro error after ⟨succeeded, same, -⟩
    cases same

theorem present_ends {program : Transfer (Option Result)}
    (ends : program.Ends (answerTransfer choices)
      (fun outcome after => ∃ reply : Option Result, outcome = .ok reply ∧
        Ensures (match reply with | none => .error .os | some result => .ok result) after) world) :
    (Transfer.present program).Ends (answerTransfer choices) Ensures world := by
  apply Raising.ends_bind ends
  · rintro reply after ⟨_, same, ensures⟩
    rw [← Except.ok.inj same] at ensures
    cases reply <;> exact ensures
  · rintro error after ⟨reply, same, -⟩
    cases same

end

section

variable {Fact : TransferWorld → Prop}

theorem makeParent_ends (steady : Steady Fact) (fact : Fact world) :
    Transfer.makeParent.Ends (answerTransfer choices) (fun _ after => Fact after) world :=
  require_ends (perform_ends .makeParent fun _ => ⟨_, rfl, steady world _ fact⟩)

theorem lstatParent_ends (steady : Steady Fact) (fact : Fact world) :
    Transfer.lstatParent.Ends (answerTransfer choices) (fun _ after => Fact after) world :=
  present_ends (perform_ends .lstatParent fun _ => ⟨_, rfl, steady world _ fact⟩)

theorem fsync_ends (descriptor : Nat) (steady : Steady Fact) (fact : Fact world) :
    (Transfer.fsync descriptor).Ends (answerTransfer choices) (fun _ after => Fact after) world :=
  require_ends (perform_ends (.fsync descriptor) fun _ => ⟨_, rfl, steady world _ fact⟩)

theorem receive_ends (steady : Steady Fact) (fact : Fact world) :
    Transfer.receive.Ends (answerTransfer choices) (fun _ after => Fact after) world := by
  have waited : (Transfer.perform .receive).Ends (answerTransfer choices)
      (fun _ after => Fact after) world := perform_ends .receive fun _ => steady world _ fact
  apply Raising.ends_bind waited
  · intro reply after fact
    cases reply <;> exact fact
  · intro error after fact
    exact fact

/-- Only a wait for `os.close` is harmed by a cancellation. -/
theorem await_bind_ends {Result : Type} {function : CriticalFunction} (other : function ≠ .close)
    (steady : Steady Fact) (fact : Fact world) {next : Bool → Transfer Result}
    {Ensures : Except TransferError Result → TransferWorld → Prop}
    (both : ∀ cancelled after, Fact after →
      (next cancelled).Ends (answerTransfer choices) Ensures after) :
    (Transfer.await function >>= next).Ends (answerTransfer choices) Ensures world := by
  have waited : (Transfer.await function).Ends (answerTransfer choices)
      (fun outcome after => outcome.isOk = true ∧ Fact after) world := by
    apply perform_ends (.await function)
    intro choice
    have quiet : (choice.cancelled && decide (function = .close)) = false := by
      rw [decide_eq_false other, Bool.and_false]
    simp only [performTransfer, quiet, TransferWorld.incident, Bool.false_eq_true, if_false]
    exact ⟨rfl, steady world _ fact⟩
  apply Raising.ends_bind waited
  · rintro cancelled after ⟨-, fact⟩
    exact both cancelled after fact
  · rintro error after ⟨isOk, -⟩
    cases isOk

/-- Whether it fails or not, `os.close` releases the descriptor. -/
theorem close_ends (descriptor : Nat) {Closed : TransferWorld → Prop} (steady : Steady Fact)
    (closing : ∀ world, Fact world → Closed (world.closing descriptor)) (fact : Fact world) :
    (Transfer.close descriptor).Ends (answerTransfer choices) (fun _ after => Closed after) world :=
  require_ends (perform_ends (.close descriptor) fun _ =>
    ⟨_, rfl, closing _ (steady world _ fact)⟩)

end

theorem openPartialCall_ends (stage : Stage destination none none world) :
    Transfer.openPartial.Ends (answerTransfer choices)
      (fun outcome after =>
        match outcome with
        | .ok descriptor => Stage destination (some []) (some descriptor) after
        | .error _ => Stage destination none none after) world := by
  apply present_ends
  apply perform_ends .openPartial
  rintro ⟨fails, cancelled, amount⟩
  cases fails with
  | true => exact ⟨none, rfl, steady_stage world _ stage⟩
  | false =>
      have opened := stage.opening
      exact ⟨some _, rfl, opened.incidents, opened.destination, rfl, opened.held⟩

theorem fstatPartial_ends (stage : Stage destination (some content) held world) :
    (Transfer.fstatPartial descriptor).Ends (answerTransfer choices)
      (fun outcome after =>
        match outcome with
        | .ok regular => regular = true ∧ Stage destination (some content) held after
        | .error _ => Spoiled after) world := by
  apply present_ends
  apply perform_ends (.fstatPartial descriptor)
  rintro ⟨fails, cancelled, amount⟩
  cases fails with
  | true => exact ⟨none, rfl, stage.spoiled _ .openingFailed⟩
  | false => exact ⟨some true, rfl, rfl, steady_stage world _ stage⟩

theorem fchmod_ends (stage : Stage destination (some content) held world) :
    (Transfer.fchmod descriptor).Ends (answerTransfer choices)
      (fun outcome after =>
        match outcome with
        | .ok _ => Stage destination (some content) held after
        | .error _ => Spoiled after) world := by
  apply require_ends
  apply perform_ends (.fchmod descriptor)
  rintro ⟨fails, cancelled, amount⟩
  cases fails with
  | true => exact ⟨false, rfl, stage.spoiled _ .openingFailed⟩
  | false => exact ⟨true, rfl, steady_stage world _ stage⟩

theorem write_ends (bytes : List UInt8) (stage : Stage destination (some content) held world) :
    (Transfer.write descriptor bytes).Ends (answerTransfer choices)
      (fun outcome after =>
        match outcome with
        | .ok written => Stage destination (some (content ++ bytes.take written)) held after
        | .error _ => Stage destination (some content) held after) world := by
  apply present_ends
  apply perform_ends (.write descriptor bytes)
  rintro ⟨fails, cancelled, amount⟩
  cases fails with
  | true => exact ⟨none, rfl, steady_stage world _ stage⟩
  | false =>
      refine ⟨some _, rfl, stage.incidents, stage.destination, ?_, stage.held⟩
      have taken : bytes.take (bytes.take amount).length = bytes.take amount := by
        rw [List.length_take]
        exact List.take_eq_take_iff.mpr (by omega)
      have written : (world.partialFile.map fun content => content ++ bytes.take amount) =
          some (content ++ bytes.take amount) := by
        rw [stage.partialFile]
        rfl
      rw [taken]
      exact written

theorem closePartial_ends (stage : Stage destination partialFile (some descriptor) world) :
    (Transfer.closePartial descriptor).Ends (answerTransfer choices)
      (fun outcome after =>
        match outcome with
        | .ok _ => Stage destination partialFile none after ∧ descriptor ∈ after.closed
        | .error _ => Misled descriptor after) world := by
  have member : descriptor ∈ world.closed ++ [descriptor] :=
    List.mem_append_right _ (List.mem_singleton_self descriptor)
  apply require_ends
  apply perform_ends (.closePartial descriptor)
  rintro ⟨fails, cancelled, amount⟩
  cases fails with
  | true => exact ⟨false, rfl, incident_ne_nil _ .closeFailed, member⟩
  | false => exact ⟨true, rfl, steady_stage _ _ stage.closing, member⟩

theorem unlinkPartial_ends (stage : Stage destination partialFile held world) :
    Transfer.unlinkPartial.Ends (answerTransfer choices)
      (fun outcome after => outcome = .ok () ∧ Stage destination none held after) world := by
  apply perform_ends .unlinkPartial
  intro choice
  exact ⟨rfl, stage.incidents, stage.destination, rfl, stage.held⟩

theorem openDirectory_ends (stage : Stage destination partialFile none world) :
    Transfer.openDirectory.Ends (answerTransfer choices)
      (fun outcome after =>
        match outcome with
        | .ok descriptor => Stage destination partialFile (some descriptor) after
        | .error _ => Stage destination partialFile none after) world := by
  apply present_ends
  apply perform_ends .openDirectory
  rintro ⟨fails, cancelled, amount⟩
  cases fails with
  | true => exact ⟨none, rfl, steady_stage world _ stage⟩
  | false => exact ⟨some _, rfl, steady_stage _ _ stage.opening⟩

theorem link_ends (stage : Stage destination (some content) none world) :
    Transfer.link.Ends (answerTransfer choices)
      (fun outcome after =>
        match outcome with
        | .ok .linked => Stage (some ⟨true, 0o600, content⟩) (some content) none after
        | .ok .exists_ => destination ≠ none ∧ Stage destination (some content) none after
        | .ok .failed => Stage destination (some content) none after
        | .error _ => False) world := by
  apply perform_ends .link
  rintro ⟨fails, cancelled, amount⟩
  have named := stage.destination
  have linked := stage.partialFile
  cases fails with
  | true => exact steady_stage world _ stage
  | false =>
      simp only [performTransfer, Bool.false_eq_true, if_false, named, linked]
      cases destination with
      | none => exact ⟨stage.incidents, rfl, rfl, stage.held⟩
      | some entry =>
          exact ⟨Option.some_ne_none entry, stage.incidents, rfl, rfl, stage.held⟩

theorem openDestination_ends (stage : Stage destination partialFile none world) :
    Transfer.openDestination.Ends (answerTransfer choices)
      (fun (outcome : Except TransferError OpenReply) after =>
        match outcome with
        | .ok .missing => destination = none ∧ Stage destination partialFile none after
        | .ok .failed => Stage destination partialFile none after
        | .ok (.opened descriptor) => ∃ entry, destination = some entry ∧
            after.unread = entry.content ∧
            Stage destination partialFile (some descriptor) after
        | .error _ => False) world := by
  apply perform_ends .openDestination
  rintro ⟨fails, cancelled, amount⟩
  have named := stage.destination
  cases fails with
  | true => exact steady_stage world _ stage
  | false =>
      simp only [performTransfer, Bool.false_eq_true, if_false, named]
      cases destination with
      | none => exact ⟨rfl, stage.incidents, rfl, stage.partialFile, stage.held⟩
      | some entry =>
          have opened := stage.opening
          exact ⟨entry, rfl, rfl, opened.incidents, rfl, opened.partialFile, opened.held⟩

/-! ### Functions -/

variable {kind : TransferKind} {request : TransferRequest}

/-- A function in a thread: a result that the task does not get is cleaned up. -/
theorem criticalToThread_ends {Result : Type} {name : CriticalFunction} (other : name ≠ .close)
    {cancelCleanup : Result → Transfer Unit} {function : Transfer Result}
    {Returned : Result → TransferWorld → Prop} {Raised : TransferWorld → Prop}
    (steadyReturned : ∀ result, Steady (Returned result)) (steadyRaised : Steady Raised)
    (ends : function.Ends (answerTransfer choices)
      (fun outcome after =>
        match outcome with
        | .ok result => Returned result after
        | .error _ => Raised after) world)
    (cleaned : ∀ result after, Returned result after →
      (cancelCleanup result).Ends (answerTransfer choices) (fun _ last => Raised last) after) :
    (criticalToThread name cancelCleanup function).Ends (answerTransfer choices)
      (fun outcome after =>
        match outcome with
        | .ok result => Returned result after
        | .error _ => Raised after) world := by
  apply Raising.ends_handle ends
  intro outcome after ended
  cases outcome with
  | ok result =>
      apply await_bind_ends other (steadyReturned result) ended
      intro cancelled last returned
      cases cancelled with
      | true =>
          apply Raising.ends_handle (cleaned result last returned)
          intro _ final raised
          exact raised
      | false => exact returned
  | error error =>
      apply await_bind_ends other steadyRaised ended
      intro cancelled last raised
      cases cancelled <;> exact raised

/-- A failing `os.close` is ignored. -/
theorem closeQuietly_ends (descriptor : Nat) {Fact Closed : TransferWorld → Prop}
    (steady : Steady Fact)
    (closing : ∀ world, Fact world → Closed (world.closing descriptor)) (fact : Fact world) :
    ((Transfer.close descriptor).handle fun _ => (pure () : Transfer Unit)).Ends
      (answerTransfer choices) (fun outcome after => outcome = .ok () ∧ Closed after) world := by
  apply Raising.ends_handle (close_ends descriptor steady closing fact)
  intro _ after closed
  exact ⟨rfl, closed⟩

/-- The file is closed and removed. -/
theorem cleanup_ends (stage : Stage destination (some content) (some descriptor) world) :
    (cleanupTransferPartial (some descriptor) true).Ends (answerTransfer choices)
      (fun _ after => Stage destination none none after) world := by
  apply Raising.ends_bind
    (closeQuietly_ends descriptor steady_stage (fun _ held => held.closing) stage)
  · rintro _ after ⟨-, closed⟩
    exact Raising.ends_mono (unlinkPartial_ends closed) fun _ _ both => both.2
  · rintro error after ⟨same, -⟩
    cases same

/-- A file that had been published is only removed. -/
theorem cleanup_published_ends (stage : Stage destination partialFile none world) :
    (cleanupTransferPartial none true).Ends (answerTransfer choices)
      (fun _ after => Stage destination none none after) world :=
  Raising.ends_mono (unlinkPartial_ends stage) fun _ _ both => both.2

/-- A file that had been closed is closed again. -/
theorem cleanup_misled_ends (misled : Misled descriptor world) :
    (cleanupTransferPartial (some descriptor) true).Ends (answerTransfer choices)
      (fun _ after => Spoiled after) world := by
  apply Raising.ends_bind
    (closeQuietly_ends descriptor steady_misled (fun _ closed => closed.closing) misled)
  · rintro _ after ⟨-, twice⟩
    apply perform_ends .unlinkPartial
    intro choice
    exact ⟨twice.incidents, Or.inr twice.unsettled⟩
  · rintro error after ⟨same, -⟩
    cases same

/-- Once the file is created it is opened, or left behind. -/
theorem openPartial_ends (safeName : Bool) (stage : Stage destination none none world) :
    (kind.openPartial safeName).Ends (answerTransfer choices)
      (fun outcome after =>
        match outcome with
        | .ok descriptor => Stage destination (some []) (some descriptor) after
        | .error _ => Stage destination none none after ∨ Spoiled after) world := by
  unfold TransferKind.openPartial
  split
  · exact Or.inl stage
  · apply Raising.ends_bind (makeParent_ends steady_stage stage)
    · intro _ made stage
      apply Raising.ends_bind (lstatParent_ends steady_stage stage)
      · intro directory seen stage
        split
        · exact Or.inl stage
        · apply Raising.ends_bind (openPartialCall_ends stage)
          · intro descriptor opened stage
            apply Raising.ends_bind (fstatPartial_ends stage)
            · rintro regular known ⟨rfl, stage⟩
              rw [if_neg (by decide)]
              apply Raising.ends_bind (fchmod_ends stage)
              · intro _ changed stage
                exact stage
              · intro _ failed spoiled
                exact Or.inr spoiled
            · intro _ failed spoiled
              exact Or.inr spoiled
          · intro _ failed stage
            exact Or.inl stage
      · intro _ failed stage
        exact Or.inl stage
    · intro _ failed stage
      exact Or.inl stage

theorem writeAll_ends (fuel : Nat) (view : List UInt8) (enough : view.length ≤ fuel)
    (stage : Stage destination (some content) held world) :
    (writeAll descriptor fuel view).Ends (answerTransfer choices)
      (fun outcome after =>
        match outcome with
        | .ok _ => Stage destination (some (content ++ view)) held after
        | .error _ => ∃ written, Stage destination (some written) held after) world := by
  induction fuel generalizing view content world with
  | zero =>
      rw [List.eq_nil_of_length_eq_zero (Nat.le_zero.mp enough), List.append_nil]
      exact stage
  | succ fuel induction =>
      cases view with
      | nil =>
          rw [List.append_nil]
          exact stage
      | cons byte view =>
          rw [writeAll]
          apply Raising.ends_bind (write_ends (byte :: view) stage)
          · intro written after stage
            split
            · exact ⟨_, stage⟩
            · next some =>
                have shorter : ((byte :: view).drop written).length ≤ fuel := by
                  rw [List.length_drop]
                  omega
                apply Raising.ends_mono (induction _ shorter stage)
                intro outcome last ended
                cases outcome with
                | ok _ =>
                    rw [List.append_assoc, List.take_append_drop] at ended
                    exact ended
                | error _ => exact ended
          · intro _ after stage
            exact ⟨_, stage⟩
          · intro same
            cases same

/-- The chunks are in the file when they have been received. -/
theorem receiveChunks_ends (expectedSize : Nat) (chunks : List (List UInt8))
    (stage : Stage destination (some content) (some descriptor) world) :
    (kind.receiveChunks descriptor expectedSize chunks content).Ends (answerTransfer choices)
      (fun outcome after =>
        match outcome with
        | .ok received => Stage destination (some received) (some descriptor) after
        | .error _ => ∃ written, Stage destination (some written) (some descriptor) after)
      world := by
  induction chunks generalizing content world with
  | nil =>
      apply Raising.ends_bind (receive_ends steady_stage stage)
      · intro _ after stage
        exact stage
      · intro _ after stage
        exact ⟨_, stage⟩
  | cons chunk chunks induction =>
      rw [TransferKind.receiveChunks]
      apply Raising.ends_bind (receive_ends steady_stage stage)
      · intro _ received stage
        split
        · exact induction stage
        · split
          · exact ⟨_, stage⟩
          · have steadyWritten : Steady fun after =>
                ∃ written, Stage destination (some written) (some descriptor) after := by
              rintro world moment ⟨written, stage⟩
              exact ⟨written, steady_stage world moment stage⟩
            have written := @criticalToThread_ends choices received Unit .writeAll (by decide)
              noCleanup (writeAll descriptor chunk.length chunk)
              (fun _ => Stage destination (some (content ++ chunk)) (some descriptor))
              (fun after => ∃ written, Stage destination (some written) (some descriptor) after)
              (fun _ => steady_stage) steadyWritten
              (Raising.ends_mono (writeAll_ends chunk.length chunk le_rfl stage) (by
                intro outcome after ended
                cases outcome <;> exact ended))
              (fun _ after stage => ⟨_, stage⟩)
            apply Raising.ends_bind written
            · intro _ after stage
              exact induction stage
            · intro _ after stage
              exact stage
      · intro _ after stage
        exact ⟨_, stage⟩

/-- If the task is cancelled while it waits, it does not learn that the file is closed. -/
theorem criticalClose_ends (stage : Stage destination partialFile (some descriptor) world) :
    (criticalToThread .close noCleanup (Transfer.closePartial descriptor)).Ends
      (answerTransfer choices)
      (fun outcome after =>
        match outcome with
        | .ok _ => Stage destination partialFile none after
        | .error _ => Misled descriptor after) world := by
  apply Raising.ends_handle (closePartial_ends stage)
  intro outcome after ended
  have waited : (Transfer.await .close).Ends (answerTransfer choices)
      (fun reply last => ∃ cancelled, reply = .ok cancelled ∧
        ∃ moment, last = (({ after with moment } : TransferWorld).incident cancelled
          .closeCancelled)) after := by
    apply perform_ends (.await .close)
    intro choice
    refine ⟨choice.cancelled, rfl, after.moment + 1, ?_⟩
    simp only [performTransfer, decide_true, Bool.and_true]
  apply Raising.ends_bind waited
  · rintro cancelled _ ⟨_, same, moment, rfl⟩
    cases same
    cases outcome with
    | ok _ =>
        cases cancelled with
        | true => exact ⟨incident_ne_nil _ .closeCancelled, ended.2⟩
        | false => exact steady_stage after moment ended.1
    | error _ =>
        cases cancelled with
        | true => exact ⟨incident_ne_nil _ .closeCancelled, ended.closed⟩
        | false => exact steady_misled after moment ended
  · rintro error last ⟨cancelled, same, -⟩
    cases same

theorem fillPartial_ends (stage : Stage destination (some []) (some descriptor) world) :
    (kind.fillPartial request descriptor).Ends (answerTransfer choices)
      (fun outcome after =>
        match outcome with
        | .ok _ => ∃ content, content.length = request.expectedSize ∧
            Sha256.hexDigest content = request.expectedSha256 ∧
            Stage destination (some content) none after
        | .error _ =>
            (∃ written, Stage destination (some written) (some descriptor) after) ∨
              Misled descriptor after) world := by
  rw [TransferKind.fillPartial]
  apply Raising.ends_bind (receiveChunks_ends request.expectedSize request.chunks stage)
  · intro received after stage
    split
    · exact Or.inl ⟨_, stage⟩
    · next size =>
        split
        · exact Or.inl ⟨_, stage⟩
        · next digest =>
            have synced := @criticalToThread_ends choices after Unit .fsync (by decide)
              noCleanup (Transfer.fsync descriptor)
              (fun _ => Stage destination (some received) (some descriptor))
              (Stage destination (some received) (some descriptor)) (fun _ => steady_stage)
              steady_stage
              (Raising.ends_mono (fsync_ends descriptor steady_stage stage) (by
                intro outcome after ended
                cases outcome <;> exact ended))
              (fun _ after stage => stage)
            apply Raising.ends_bind synced
            · intro _ last stage
              apply Raising.ends_mono (criticalClose_ends stage)
              intro outcome final ended
              cases outcome with
              | ok _ => exact ⟨received, not_not.mp size, not_not.mp digest, ended⟩
              | error _ => exact Or.inr ended
            · intro _ last stage
              exact Or.inl ⟨_, stage⟩
  · intro _ after written
    exact Or.inl written

/-! ### Publishing -/

theorem readDestinationCall_ends (stage : Stage destination partialFile held world) :
    (Transfer.readDestination descriptor).Ends (answerTransfer choices)
      (fun outcome after => Stage destination partialFile held after ∧
        match outcome with
        | .ok chunk => ∃ amount, chunk = world.unread.take (amount + 1) ∧
            after.unread = world.unread.drop (amount + 1)
        | .error _ => True) world := by
  apply present_ends
  apply perform_ends (.readDestination descriptor)
  rintro ⟨fails, cancelled, amount⟩
  cases fails with
  | true => exact ⟨none, rfl, steady_stage world _ stage, trivial⟩
  | false =>
      exact ⟨some _, rfl, ⟨stage.incidents, stage.destination, stage.partialFile, stage.held⟩,
        amount, rfl, rfl⟩

/-- The loop reads everything that is left. -/
theorem readDestination_ends (fuel : Nat) (read : List UInt8)
    (enough : world.unread.length < fuel)
    (stage : Stage destination partialFile held world) :
    (TransferKind.readDestination descriptor fuel read).Ends (answerTransfer choices)
      (fun outcome after => Stage destination partialFile held after ∧
        match outcome with
        | .ok content => content = read ++ world.unread
        | .error _ => True) world := by
  induction fuel generalizing read world with
  | zero => omega
  | succ fuel induction =>
      rw [TransferKind.readDestination]
      apply Raising.ends_bind (readDestinationCall_ends stage)
      · rintro chunk after ⟨stage, amount, rfl, left⟩
        split
        · next finished =>
            have nothing : world.unread = [] := by
              cases unread : world.unread with
              | nil => rfl
              | cons byte rest =>
                  rw [unread] at finished
                  cases finished
            have whole : read = read ++ world.unread := by rw [nothing, List.append_nil]
            exact ⟨stage, whole⟩
        · next some =>
            have shorter : after.unread.length < fuel := by
              have nonempty : world.unread ≠ [] := by
                intro nothing
                rw [nothing] at some
                exact some rfl
              have positive := List.length_pos_of_ne_nil nonempty
              rw [left, List.length_drop]
              omega
            apply Raising.ends_mono (induction _ shorter stage)
            rintro outcome last ⟨stage, content⟩
            apply And.intro stage
            cases outcome with
            | ok _ =>
                rw [left, List.append_assoc, List.take_append_drop] at content
                exact content
            | error _ => trivial
      · rintro error after ⟨stage, -⟩
        exact ⟨stage, trivial⟩

theorem fstatDestination_ends (stage : Stage destination partialFile held world) :
    (Transfer.fstatDestination descriptor).Ends (answerTransfer choices)
      (fun outcome after => Stage destination partialFile held after ∧
        after.unread = world.unread ∧
        match outcome with
        | .ok entry => destination = some entry
        | .error _ => True) world := by
  apply present_ends
  apply perform_ends (.fstatDestination descriptor)
  rintro ⟨fails, cancelled, amount⟩
  cases fails with
  | true => exact ⟨none, rfl, steady_stage world _ stage, rfl, trivial⟩
  | false =>
      refine ⟨world.destination, rfl, steady_stage world _ stage, rfl, ?_⟩
      cases found : world.destination with
      | none => trivial
      | some entry => exact stage.destination.symm.trans found

/-- What follows is done however the program ends. -/
theorem finally_ends {Result : Type} {ending : Transfer Unit} {program : Transfer Result}
    {Reached Ensures : Except TransferError Result → TransferWorld → Prop}
    (ends : program.Ends (answerTransfer choices) Reached world)
    (finished : ∀ outcome after, Reached outcome after →
      ending.Ends (answerTransfer choices)
        (fun reply last =>
          match reply with
          | .ok _ => Ensures outcome last
          | .error error => Ensures (.error error) last) after) :
    (Transfer.finally_ ending program).Ends (answerTransfer choices) Ensures world := by
  apply Raising.ends_handle ends
  intro outcome after reached
  apply Raising.ends_bind (finished outcome after reached)
  · intro _ last ensures
    exact ensures
  · intro _ last ensures
    exact ensures

def Verified (entry : DestinationEntry) (expectedSize : Nat)
    (outcome : Except TransferError (List UInt8)) : Prop :=
  ∀ content, outcome = .ok content →
    content = entry.content ∧ entry.regular = true ∧ entry.content.length = expectedSize

theorem verified_error {entry : DestinationEntry} {expectedSize : Nat} (error : TransferError) :
    Verified entry expectedSize (.error error) := by
  intro content same
  cases same

/-- The entry is looked at and read to its end. -/
theorem readVerified_ends {entry : DestinationEntry} (expectedSize : Nat)
    (unread : world.unread = entry.content)
    (stage : Stage (some entry) partialFile held world) :
    Raising.Ends (answerTransfer choices)
      (fun outcome after => Stage (some entry) partialFile held after ∧
        Verified entry expectedSize outcome)
      (do
        let metadata ← Transfer.fstatDestination descriptor
        if !metadata.regular || metadata.content.length ≠ expectedSize ||
            kind.requiredMode.any (· ≠ metadata.mode) then
          kind.existingError " destination is invalid"
        else TransferKind.readDestination descriptor (expectedSize + 1) []) world := by
  apply Raising.ends_bind (@fstatDestination_ends _ _ descriptor _ _ _ stage)
  · rintro metadata after ⟨stage, left, same⟩
    have known : entry = metadata := Option.some.inj same
    subst known
    split
    · exact ⟨stage, verified_error _⟩
    · next valid =>
        have fits : entry.regular = true ∧ entry.content.length = expectedSize := by
          simp only [ne_eq, Bool.or_eq_true, Bool.not_eq_eq_eq_not, Bool.not_true,
            decide_eq_true_eq, not_or, Bool.not_eq_false, not_not] at valid
          exact valid.1
        have enough : after.unread.length < expectedSize + 1 := by
          rw [left, unread, fits.2]
          exact Nat.lt_succ_self expectedSize
        apply Raising.ends_mono (readDestination_ends (expectedSize + 1) [] enough stage)
        rintro outcome last ⟨stage, read⟩
        apply And.intro stage
        rintro content rfl
        rw [List.nil_append, left, unread] at read
        exact ⟨read, fits⟩
  · rintro error after ⟨stage, -⟩
    exact ⟨stage, verified_error error⟩

theorem verifyDestination_ends {entry : DestinationEntry} (expectedSize : Nat)
    (unread : world.unread = entry.content)
    (stage : Stage (some entry) partialFile (some descriptor) world) :
    (kind.verifyDestination descriptor expectedSize).Ends (answerTransfer choices)
      (fun outcome after => Stage (some entry) partialFile none after ∧
        Verified entry expectedSize outcome) world := by
  rw [TransferKind.verifyDestination]
  refine finally_ends (?_ : Raising.Ends _ (fun outcome after =>
    Stage (some entry) partialFile (some descriptor) after ∧
      Verified entry expectedSize outcome) _ world) ?_
  · apply Raising.ends_handle (readVerified_ends expectedSize unread stage)
    rintro outcome after ⟨stage, verified⟩
    split
    · exact ⟨stage, verified_error _⟩
    · exact ⟨stage, verified⟩
  · rintro outcome after ⟨stage, verified⟩
    apply Raising.ends_mono (close_ends descriptor steady_stage (fun _ held => held.closing) stage)
    intro reply last closed
    cases reply with
    | ok _ => exact ⟨closed, verified⟩
    | error error => exact ⟨closed, verified_error error⟩

/-- An existing destination is accepted only with the claimed size and digest. -/
theorem existingIsValid_ends (stage : Stage destination partialFile none world) :
    (kind.existingIsValid request.expectedSize request.expectedSha256).Ends
      (answerTransfer choices)
      (fun outcome after => Stage destination partialFile none after ∧
        ∀ valid, outcome = .ok valid →
          if valid then Claimed request destination else destination = none) world := by
  rw [TransferKind.existingIsValid]
  apply Raising.ends_bind (openDestination_ends stage)
  · intro reply after opened
    cases reply with
    | missing =>
        refine ⟨opened.2, ?_⟩
        rintro valid same
        cases same
        exact opened.1
    | failed =>
        refine ⟨opened, ?_⟩
        intro valid same
        cases same
    | opened descriptor =>
        rcases opened with ⟨entry, rfl, unread, stage⟩
        apply Raising.ends_bind (verifyDestination_ends request.expectedSize unread stage)
        · rintro content last ⟨stage, verified⟩
          rcases verified content rfl with ⟨rfl, regular, size⟩
          split
          · refine ⟨stage, ?_⟩
            intro valid same
            cases same
          · next digest =>
              refine ⟨stage, ?_⟩
              intro valid same
              cases same
              exact ⟨entry, rfl, regular, size, not_not.mp digest⟩
        · rintro error last ⟨stage, -⟩
          refine ⟨stage, ?_⟩
          intro valid same
          cases same
  · intro error after impossible
    exact impossible.elim

/-- How the destination stands after the publication, if the task has seen it return or not. -/
def Published (request : TransferRequest) (before : Option DestinationEntry)
    (partialFile : Option (List UInt8)) (returned : Prop) (after : TransferWorld) : Prop :=
  ∃ last, Stage last partialFile none after ∧ (last = before ∨ Claimed request last) ∧
    (returned → Claimed request last)

theorem steady_published {returned : Prop} :
    Steady (Published request destination partialFile returned) := by
  rintro world moment ⟨last, stage, rest⟩
  exact ⟨last, steady_stage world moment stage, rest⟩

/-- What the link and the check of an existing destination leave. -/
theorem linkPartial_ends {content : List UInt8} (size : content.length = request.expectedSize)
    (digest : Sha256.hexDigest content = request.expectedSha256)
    (stage : Stage destination (some content) none world) :
    Raising.Ends (answerTransfer choices)
      (fun outcome after =>
        Published request destination (some content) (outcome = .ok ()) after)
      (do
        match ← Transfer.link with
        | .linked => pure ()
        | .exists_ => do
            let _ ← kind.existingIsValid request.expectedSize request.expectedSha256
            pure ()
        | .failed => kind.error " file could not be atomically published") world := by
  apply Raising.ends_bind (link_ends stage)
  · intro reply after linked
    cases reply with
    | linked =>
        have claimed : Claimed request (some ⟨true, 0o600, content⟩) := ⟨_, rfl, rfl, size, digest⟩
        exact ⟨_, linked, Or.inr claimed, fun _ => claimed⟩
    | exists_ =>
        apply Raising.ends_bind (@existingIsValid_ends _ _ _ _ _ request linked.2)
        · rintro valid last ⟨stage, checked⟩
          refine ⟨destination, stage, Or.inl rfl, fun _ => ?_⟩
          have decided := checked valid rfl
          cases valid with
          | true => exact decided
          | false => exact absurd decided linked.1
        · rintro error last ⟨stage, -⟩
          refine ⟨destination, stage, Or.inl rfl, ?_⟩
          intro same
          cases same
    | failed =>
        refine ⟨destination, linked, Or.inl rfl, ?_⟩
        intro same
        cases same
  · intro error after impossible
    exact impossible.elim

/-- The partial file is removed, and the directory is synchronized. -/
theorem publishPartial_ends {content : List UInt8} (size : content.length = request.expectedSize)
    (digest : Sha256.hexDigest content = request.expectedSha256)
    (stage : Stage destination (some content) none world) :
    (kind.publishPartial request.expectedSize request.expectedSha256).Ends
      (answerTransfer choices)
      (fun outcome after => Published request destination none (outcome = .ok ()) after) world := by
  rw [TransferKind.publishPartial]
  have unlinked := @finally_ends choices world Unit Transfer.unlinkPartial _ _
    (fun outcome after => Published request destination none (outcome = .ok ()) after)
    (@linkPartial_ends _ _ _ kind _ _ size digest stage) (by
      rintro outcome after ⟨last, stage, rest⟩
      apply Raising.ends_mono (unlinkPartial_ends stage)
      rintro reply final ⟨rfl, stage⟩
      exact ⟨last, stage, rest⟩)
  apply Raising.ends_bind unlinked
  · rintro _ after ⟨last, stage, unchanged, claimed⟩
    have published : Claimed request last := claimed rfl
    apply Raising.ends_bind (openDirectory_ends stage)
    · intro directory opened stage
      refine finally_ends (?_ : Raising.Ends _ (fun _ synced =>
        Stage last none (some directory) synced) _ opened) ?_
      · exact fsync_ends directory steady_stage stage
      · intro outcome synced stage
        apply Raising.ends_mono
          (close_ends directory steady_stage (fun _ held => held.closing) stage)
        intro reply final stage
        cases reply with
        | ok _ => exact ⟨last, stage, unchanged, fun _ => published⟩
        | error _ => exact ⟨last, stage, unchanged, fun _ => published⟩
    · intro error opened stage
      exact ⟨last, stage, unchanged, fun _ => published⟩
  · intro error after published
    exact published

/-! ### The whole download -/

/-- It ends as it should, and nothing has gone wrong; or something is left behind. -/
def Ended (request : TransferRequest) (before : Option DestinationEntry) (returned : Prop)
    (after : TransferWorld) : Prop :=
  Published request before none returned after ∨ Spoiled after

theorem Ended.allOrNothing_iff {outcome : Except TransferError Unit} {after : TransferWorld}
    (ended : Ended request destination (outcome = .ok ()) after) :
    AllOrNothing request destination outcome after ↔ after.incidents = [] := by
  rcases ended with ⟨last, stage, unchanged, claimed⟩ | spoiled
  · constructor
    · intro _
      exact stage.incidents
    · intro _
      rw [← stage.destination] at unchanged claimed
      exact ⟨unchanged, claimed, stage.partialFile, stage.settled⟩
  · constructor
    · intro fulfilled
      rcases spoiled.left with left | unsettled
      · exact absurd fulfilled.noPartial left
      · exact absurd fulfilled.descriptors unsettled
    · intro nothing
      exact absurd nothing spoiled.incidents

theorem steady_ended {returned : Prop} : Steady (Ended request destination returned) := by
  rintro world moment (published | spoiled)
  · exact Or.inl (steady_published world moment published)
  · exact Or.inr (steady_spoiled world moment spoiled)

/-- An error leaves the destination as it was, if nothing more has happened. -/
theorem Stage.ended (stage : Stage destination none none world) :
    Ended request destination False world :=
  Or.inl ⟨destination, stage, Or.inl rfl, False.elim⟩

theorem Ended.of_error {error : TransferError} (ended : Ended request destination False world) :
    Ended request destination ((Except.error error : Except TransferError Unit) = .ok ()) world := by
  rcases ended with ⟨last, stage, unchanged, -⟩ | spoiled
  · refine Or.inl ⟨last, stage, unchanged, ?_⟩
    intro same
    cases same
  · exact Or.inr spoiled

/-- An error stays one, and whatever there is to clean up is cleaned up. -/
theorem endTransfer_ends {belief : TransferKind.Belief} (error : TransferError)
    (ends : (cleanupTransferPartial belief.descriptor belief.partial_).Ends
      (answerTransfer choices) (fun _ after => Ended request destination False after) world) :
    (kind.endTransfer belief (.error error)).Ends (answerTransfer choices)
      (fun outcome after => Ended request destination (outcome = .ok ()) after) world := by
  unfold TransferKind.endTransfer
  refine finally_ends (?_ : Raising.Ends _ (fun outcome after =>
    (∃ error, outcome = .error error) ∧ after = world) _ world) ?_
  · cases error <;> exact ⟨⟨_, rfl⟩, rfl⟩
  rintro _ _ ⟨⟨error, rfl⟩, rfl⟩
  split
  · have cleaned := @criticalToThread_ends choices _ Unit .cleanup (by decide) noCleanup
      (cleanupTransferPartial belief.descriptor belief.partial_)
      (fun _ => Ended request destination False) (Ended request destination False)
      (fun _ => steady_ended) steady_ended
      (Raising.ends_mono ends (by
        intro outcome after ended
        cases outcome <;> exact ended))
      (fun _ _ ended => ended)
    apply Raising.ends_mono cleaned
    intro reply after ended
    cases reply <;> exact Ended.of_error ended
  · next nothing =>
      have empty : belief = ⟨none, false⟩ := by
        rcases belief with ⟨descriptor, partial_⟩
        cases descriptor <;> cases partial_ <;> first | rfl | exact absurd rfl nothing
      subst empty
      exact Ended.of_error ends

theorem streamResponse_ends (text : HeaderText)
    (stage : Stage destination none none world) :
    (kind.streamResponse text request).Ends (answerTransfer choices)
      (fun outcome after => Ended request destination (outcome = .ok ()) after) world := by
  have opened := @criticalToThread_ends choices world Nat .openPartial (by decide)
    discardOpenedPartial (kind.openPartial request.safeName)
    (fun descriptor => Stage destination (some []) (some descriptor))
    (Ended request destination False) (fun _ => steady_stage) steady_ended
    (Raising.ends_mono (openPartial_ends request.safeName stage) (by
      intro outcome after ended
      cases outcome with
      | ok _ => exact ended
      | error _ =>
          rcases ended with stage | spoiled
          · exact stage.ended
          · exact Or.inr spoiled))
    (by
      intro descriptor after stage
      exact Raising.ends_mono (cleanup_ends stage) fun _ _ cleaned => cleaned.ended)
  rw [TransferKind.streamResponse]
  cases kind.checkHeaders text request with
  | error error => exact Ended.of_error stage.ended
  | ok _ =>
      apply Raising.ends_handle opened
      intro outcome after ended
      cases outcome with
      | error error => exact endTransfer_ends error ended
      | ok descriptor =>
          apply Raising.ends_handle (@fillPartial_ends _ _ _ _ _ request ended)
          intro outcome filled ended
          cases outcome with
          | error error =>
              apply endTransfer_ends error
              rcases ended with ⟨written, stage⟩ | misled
              · exact Raising.ends_mono (cleanup_ends stage) fun _ _ cleaned => cleaned.ended
              · exact Raising.ends_mono (cleanup_misled_ends misled) fun _ _ spoiled =>
                  Or.inr spoiled
          | ok _ =>
              rcases ended with ⟨content, size, digest, stage⟩
              have published := @criticalToThread_ends choices filled Unit .publish (by decide)
                noCleanup (kind.publishPartial request.expectedSize request.expectedSha256)
                (fun _ => Published request destination none True)
                (Published request destination none False)
                (fun _ => steady_published) steady_published
                (Raising.ends_mono (publishPartial_ends size digest stage) (by
                  rintro outcome after ⟨final, stage, unchanged, claimed⟩
                  cases outcome with
                  | ok _ => exact ⟨final, stage, unchanged, fun _ => claimed rfl⟩
                  | error _ => exact ⟨final, stage, unchanged, False.elim⟩))
                (by
                  rintro _ after ⟨final, stage, unchanged, -⟩
                  exact ⟨final, stage, unchanged, False.elim⟩)
              apply Raising.ends_handle published
              intro outcome last ended
              cases outcome with
              | error error =>
                  rcases ended with ⟨final, stage, unchanged, -⟩
                  apply endTransfer_ends error
                  apply Raising.ends_mono (cleanup_published_ends stage)
                  intro _ _ cleaned
                  exact Or.inl ⟨final, cleaned, unchanged, False.elim⟩
              | ok _ =>
                  rcases ended with ⟨final, stage, unchanged, claimed⟩
                  exact Or.inl ⟨final, stage, unchanged, fun _ => claimed trivial⟩

theorem incidents_incident (world : TransferWorld) (happens : Bool) (incident : Incident) :
    (world.incident happens incident).incidents =
      world.incidents ++ (if happens then some incident else none).toList := by
  cases happens with
  | true => rfl
  | false => exact (List.append_nil _).symm

/-- The incidents of a world are what has gone wrong with its calls. -/
theorem incidents_performTransfer (choice : TransferChoice) (world : TransferWorld)
    (call : TransferCall) :
    (performTransfer choice world call).2.incidents =
      world.incidents ++ (incidentOf choice call).toList := by
  cases call with
  | fstatPartial | fchmod | closePartial | await => exact incidents_incident _ _ _
  | openPartial | write | openDestination | readDestination | openDirectory | link =>
      rw [performTransfer]
      repeat' split
      all_goals exact (List.append_nil _).symm
  | _ => exact (List.append_nil _).symm

theorem unharmed_iff {program : Transfer Unit} :
    (Procedure.complete (answerTransfer choices) program (startTransfer destination)).2.incidents =
        [] ↔
      ∀ step ∈ Procedure.performed (answerTransfer choices) program (startTransfer destination),
        incidentOf (choices step.2.moment) step.1 = none := by
  have logged := @Procedure.log_complete _ (Except TransferError Unit) _ _ _
    (answerTransfer choices) TransferWorld.incidents
    (fun call world => (incidentOf (choices world.moment) call).toList)
    (fun call world => incidents_performTransfer (choices world.moment) _ call)
    program (startTransfer destination)
  rw [logged, startTransfer, List.nil_append, List.flatMap_eq_nil_iff]
  simp only [Option.toList_eq_nil_iff]

theorem startTransfer_stage : Stage destination none none (startTransfer destination) where
  incidents := rfl
  destination := rfl
  partialFile := rfl
  held := List.Perm.refl _

end

/-- A dataset's or a test set's download, where the surroundings choose as they like. -/
def download (stream : HeaderText → TransferRequest → Transfer Unit) (text : HeaderText)
    (request : TransferRequest) (choices : Nat → TransferChoice)
    (destination : Option DestinationEntry) : Except TransferError Unit × TransferWorld :=
  Procedure.complete (answerTransfer choices) (stream text request) (startTransfer destination)

def Unharmed (stream : HeaderText → TransferRequest → Transfer Unit) (text : HeaderText)
    (request : TransferRequest) (choices : Nat → TransferChoice)
    (destination : Option DestinationEntry) : Prop :=
  ∀ step ∈ Procedure.performed (answerTransfer choices) (stream text request)
    (startTransfer destination), incidentOf (choices step.2.moment) step.1 = none

/-- A download of either kind is all or nothing exactly if nothing goes wrong with the opening of
its partial file after its creation, nor with `os.close`, nor is the task cancelled while it waits
for `os.close`. -/
theorem download_allOrNothing_iff (text : HeaderText) (request : TransferRequest)
    (choices : Nat → TransferChoice) (destination : Option DestinationEntry) :
    ∀ stream ∈ [streamDatasetResponse, streamTestSetResponse],
      (AllOrNothing request destination (download stream text request choices destination).1
          (download stream text request choices destination).2 ↔
        Unharmed stream text request choices destination) := by
  have each : ∀ kind : TransferKind,
      (AllOrNothing request destination
          (download kind.streamResponse text request choices destination).1
          (download kind.streamResponse text request choices destination).2 ↔
        Unharmed kind.streamResponse text request choices destination) := by
    intro kind
    have ended := @streamResponse_ends choices _ destination kind request text startTransfer_stage
    exact (Ended.allOrNothing_iff ended).trans unharmed_iff
  intro stream member
  rcases List.mem_pair.mp member with rfl | rfl
  · exact each datasetKind
  · exact each testSetKind

def byteRequest : TransferRequest where
  safeName := true
  headers := ⟨some "1", some "application/zip", none⟩
  chunks := [[97]]
  expectedSize := 1
  expectedSha256 := "ca978112ca1bbdcafac231b39a23dc4da786eff8147c4e72b9807785afee48bb"
  expectedContentType := "application/zip"

def byteText : HeaderText := ⟨fun raw => if raw = "1" then some 1 else none, id, id⟩

def undisturbed (_ : Nat) : TransferChoice := ⟨false, false, 1⟩

theorem download_allOrNothing_undisturbed :
    AllOrNothing byteRequest none
      (download streamDatasetResponse byteText byteRequest undisturbed none).1
      (download streamDatasetResponse byteText byteRequest undisturbed none).2 := by
  have unharmed : Unharmed streamDatasetResponse byteText byteRequest undisturbed none := by
    rintro ⟨call, world⟩ -
    cases call <;> rfl
  exact (download_allOrNothing_iff byteText byteRequest undisturbed none _
    List.mem_cons_self).mpr unharmed

/-- The byte is written, and the task is cancelled while it waits for `os.close`. -/
def cancelledAtClose (moment : Nat) : TransferChoice :=
  ⟨false, moment = 13, if moment = 7 then 1 else 0⟩

theorem not_always_allOrNothing :
    ¬∀ (stream : HeaderText → TransferRequest → Transfer Unit) (text : HeaderText)
      (request : TransferRequest) (choices : Nat → TransferChoice)
      (destination : Option DestinationEntry),
      stream ∈ [streamDatasetResponse, streamTestSetResponse] →
      AllOrNothing request destination (download stream text request choices destination).1
        (download stream text request choices destination).2 := by
  intro always
  have settled := (always streamDatasetResponse byteText byteRequest cancelledAtClose none
    (by simp)).descriptors
  have closed : (download streamDatasetResponse byteText byteRequest cancelledAtClose none).2.closed
      = [0, 0] := by decide +kernel
  have distinct := settled.nodup_iff.mpr List.nodup_range
  rw [closed] at distinct
  cases distinct with
  | cons other _ => exact other 0 (List.mem_singleton_self 0) rfl

end RvcOrchestrator.Worker

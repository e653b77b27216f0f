import RvcOrchestrator.Foundation.Versions
import RvcOrchestrator.Foundation.Workforce
import RvcOrchestrator.Manager.RegistryHistory

/-! # Reads of the model registry

The Manager reads a registry with several statements, each of which may see another commit,
and the browser reads it with several requests. Both compare versions to see whether what
they have read belongs together.
-/

namespace RvcOrchestrator.Manager

open RvcOrchestrator.Foundation RvcOrchestrator.Contracts

/-! ## Views -/

abbrev RegistryRow := RegistryEntryId × ModelRegistryEntry

/-- The registry of one experiment: its version, zero before the first mutation, and the rows
of its entries. -/
structure RegistryView where
  version : Nat
  rows : List RegistryRow

/-- The order of the pages: the newest first. -/
def NewerOrSame (left right : RegistryRow) : Prop :=
  right.2.createdAt < left.2.createdAt ∨
    left.2.createdAt = right.2.createdAt ∧ right.1 ≤ left.1

instance : DecidableRel NewerOrSame := fun _ _ => inferInstanceAs (Decidable (_ ∨ _))

namespace RegistryView

variable (view : RegistryView)

/-- `_active_entry` -/
def activeRow : Option RegistryRow := view.rows.find? fun row => row.2.active

def activeEntryId : Option RegistryEntryId := view.activeRow.map Prod.fst

def sorted : List RegistryRow := view.rows.insertionSort NewerOrSame

def entries : List ModelRegistryEntryRead := view.sorted.map fun row => entryToRead row.1 row.2

end RegistryView

structure ModelRegistryRead where
  experimentId : ExperimentId
  registryRowVersion : Nat
  activeEntryId : Option RegistryEntryId
  canManage : Bool
  items : List ModelRegistryEntryRead
  total : Nat
  offset : Nat
  limit : Nat
deriving DecidableEq

def RegistryView.page (view : RegistryView) (experimentId : ExperimentId) (offset limit : Nat) :
    ModelRegistryRead where
  experimentId := experimentId
  registryRowVersion := view.version
  activeEntryId := view.activeEntryId
  canManage := true
  items := (view.entries.drop offset).take limit
  total := view.rows.length
  offset := offset
  limit := limit

section

variable {Digest : Type} [DecidableEq Digest]

def registryView (state : RegistryState Digest) (experimentId : ExperimentId) : RegistryView where
  version := registryVersion state.registries experimentId
  rows := state.entries.rows.filter fun row => row.2.experimentId = experimentId

/-! ## The Manager's read -/

structure RegistryReadRequest where
  actorId : UserId
  experimentId : ExperimentId
  offset : Nat
  limit : Nat
deriving DecidableEq

/-- The statement that `get_registry` is about to execute, with what the earlier ones have
returned. -/
inductive GetRegistryStage where
  | authenticating
  | visiting (actor : User)
  | locating
  /-- There was no registry. -/
  | rechecking
  | activating (version : Nat)
  | counting (version : Nat) (active : Option RegistryRow)
  | listing (version : Nat) (active : Option RegistryRow) (total : Nat)
  | versioning (version : Nat) (active : Option RegistryRow) (total : Nat)
      (entries : List RegistryRow)
  | confirming (version : Nat) (active : Option RegistryRow) (total : Nat)
      (entries : List RegistryRow) (finalVersion : Option Nat)

inductive GetRegistryMove where
  | raises
  | goes (stage : GetRegistryStage)
  | returns (page : ModelRegistryRead)

/-- A row that the session has loaded before is not loaded again. -/
def loaded (active : Option RegistryRow) (row : RegistryRow) : RegistryRow :=
  match active with
  | none => row
  | some known => if known.1 = row.1 then known else row

def emptyRegistry (request : RegistryReadRequest) : ModelRegistryRead where
  experimentId := request.experimentId
  registryRowVersion := 0
  activeEntryId := none
  canManage := true
  items := []
  total := 0
  offset := request.offset
  limit := request.limit

def getRegistry (state : RegistryState Digest) (request : RegistryReadRequest) :
    GetRegistryStage → GetRegistryMove
  | .authenticating =>
      match state.accounts.users.find? request.actorId with
      | none => .raises
      | some actor => if actor.disabled then .raises else .goes (.visiting actor)
  | .visiting actor =>
      match requireVisibleExperiment state request.experimentId request.actorId actor with
      | .error _ => .raises
      | .ok () => .goes .locating
  | .locating =>
      match state.registries.find? request.experimentId with
      | none => .goes .rechecking
      | some registry => .goes (.activating registry.rowVersion)
  | .rechecking =>
      match state.registries.find? request.experimentId with
      | none => .returns (emptyRegistry request)
      | some _ => .raises
  | .activating version =>
      .goes (.counting version (registryView state request.experimentId).activeRow)
  | .counting version active =>
      .goes (.listing version active (registryView state request.experimentId).rows.length)
  | .listing version active total =>
      .goes (.versioning version active total
        ((((registryView state request.experimentId).sorted.drop request.offset).take
          request.limit).map (loaded active)))
  | .versioning version active total entries =>
      .goes (.confirming version active total entries
        ((state.registries.find? request.experimentId).map (·.rowVersion)))
  | .confirming version active total entries finalVersion =>
      let finalActive := (registryView state request.experimentId).activeRow
      if finalVersion ≠ some version ∨ finalActive.map Prod.fst ≠ active.map Prod.fst ∨
          finalActive.any (fun row => row.2.status ≠ .approved) then .raises
      else
        .returns
          { experimentId := request.experimentId
            registryRowVersion := version
            activeEntryId := active.map Prod.fst
            canManage := true
            items := entries.map fun row => entryToRead row.1 row.2
            total := total
            offset := request.offset
            limit := request.limit }

/-! ## The browser's read -/

def modelRegistryPageSize : Nat := 200

def modelRegistryCollectionLimit : Nat := 10000

structure RegistryExpectation where
  registryRowVersion : Nat
  activeEntryId : Option RegistryEntryId
  canManage : Bool
  total : Nat
deriving DecidableEq

structure ModelRegistrySnapshot where
  expected : RegistryExpectation
  items : List ModelRegistryEntryRead
deriving DecidableEq

def ModelRegistryRead.expectation (page : ModelRegistryRead) : RegistryExpectation where
  registryRowVersion := page.registryRowVersion
  activeEntryId := page.activeEntryId
  canManage := page.canManage
  total := page.total

/-- Which entries `modelRegistryEntry` accepts. -/
abbrev EntryCheck := ModelRegistryEntryRead → Bool

/-- `modelRegistryPage` -/
def ModelRegistryRead.Accepted (check : EntryCheck) (page : ModelRegistryRead)
    (experimentId : ExperimentId) (expectedOffset : Nat) : Prop :=
  page.experimentId = experimentId ∧ page.registryRowVersion ≤ 2147483647 ∧
    page.total ≤ modelRegistryCollectionLimit + 1 ∧ page.offset = expectedOffset ∧
    1 ≤ page.limit ∧ page.limit ≤ modelRegistryPageSize ∧ page.items.length ≤ page.limit ∧
    page.offset + page.items.length ≤ page.total ∧
    (page.items.all fun entry => check entry) ∧ (page.items.map (·.id)).Nodup ∧
    (page.items.all fun entry => entry.experimentId = experimentId) ∧
    (page.items.all fun entry => !entry.isActive || page.activeEntryId = some entry.id) ∧
    (page.items.filter (·.isActive)).length ≤ 1

instance (check : EntryCheck) (page : ModelRegistryRead) (experimentId : ExperimentId)
    (expectedOffset : Nat) : Decidable (page.Accepted check experimentId expectedOffset) :=
  inferInstanceAs (Decidable (_ ∧ _))

/-- `validCompleteRegistry` -/
def validCompleteRegistry (items : List ModelRegistryEntryRead)
    (activeEntryId : Option RegistryEntryId) (total : Nat) : Bool :=
  decide (items.length = total) && decide (items.map (·.id)).Nodup &&
    decide (items.map (·.snapshot.model.id)).Nodup &&
    match activeEntryId with
    | none => (items.filter (·.isActive)).isEmpty
    | some id =>
        match items.filter (·.isActive) with
        | [active] => active.id = id && active.status = .approved
        | _ => false

/-- The local variables of `fetchModelRegistrySnapshot`. -/
structure SnapshotProgress where
  offset : Nat
  expected : Option RegistryExpectation
  items : List ModelRegistryEntryRead
deriving DecidableEq

inductive PageOutcome where
  | fails
  | continues (progress : SnapshotProgress)
  | completes (snapshot : ModelRegistrySnapshot)

def SnapshotProgress.receive (check : EntryCheck) (experimentId : ExperimentId)
    (progress : SnapshotProgress) (page : ModelRegistryRead) : PageOutcome :=
  if ¬page.Accepted check experimentId progress.offset then .fails
  else if modelRegistryCollectionLimit < page.total then .fails
  else
    let expected := progress.expected.getD page.expectation
    if page.expectation ≠ expected then .fails
    else
      let items := progress.items ++ page.items
      let offset := progress.offset + page.items.length
      if page.total ≤ offset then
        if validCompleteRegistry items expected.activeEntryId expected.total then
          .completes ⟨expected, items⟩
        else .fails
      else if page.items = [] then .fails
      else .continues ⟨offset, some expected, items⟩

/-! ## Readers -/

inductive RegistryReader where
  | api
  | browser (progress : SnapshotProgress)

inductive RegistryReadPhase where
  | reading (reader : RegistryReader) (request : RegistryReadRequest) (stage : GetRegistryStage)
  | returned (request : RegistryReadRequest) (page : ModelRegistryRead)
  | completed (experimentId : ExperimentId) (snapshot : ModelRegistrySnapshot)

inductive RegistryReadLaunch where
  | getRegistry (request : RegistryReadRequest)
  | fetchModelRegistrySnapshot (actorId : UserId) (experimentId : ExperimentId)
deriving DecidableEq

def nextPage (actorId : UserId) (experimentId : ExperimentId) (progress : SnapshotProgress) :
    RegistryReadPhase :=
  .reading (.browser progress) ⟨actorId, experimentId, progress.offset, modelRegistryPageSize⟩
    .authenticating

def launchRegistryRead : RegistryReadLaunch → RegistryReadPhase
  | .getRegistry request => .reading .api request .authenticating
  | .fetchModelRegistrySnapshot actorId experimentId =>
      nextPage actorId experimentId ⟨0, none, []⟩

def RegistryReader.receive (check : EntryCheck) (request : RegistryReadRequest)
    (page : ModelRegistryRead) : RegistryReader → Option RegistryReadPhase
  | .api => some (.returned request page)
  | .browser progress =>
      match progress.receive check request.experimentId page with
      | .fails => none
      | .continues next => some (nextPage request.actorId request.experimentId next)
      | .completes snapshot => some (.completed request.experimentId snapshot)

def advanceRegistryRead (check : EntryCheck) (state : RegistryState Digest) :
    RegistryReadPhase → Option RegistryReadPhase
  | .reading reader request stage =>
      match getRegistry state request stage with
      | .raises => none
      | .goes next => some (.reading reader request next)
      | .returns page => reader.receive check request page
  | .returned request page => some (.returned request page)
  | .completed experimentId snapshot => some (.completed experimentId snapshot)

def registryReaders (platform : Platform) (secrets : RegistrySecrets Digest)
    (check : EntryCheck) :
    Workforce (RegistryServing Digest) RegistryReadPhase RegistryReadLaunch Unit
      (RegistryEvent Digest) where
  launch launch serving := some (launchRegistryRead launch, serving)
  advance _ phase serving := (advanceRegistryRead check serving.state phase, serving)
  disturb event serving := some ((modelRegistry platform secrets).step serving event)

abbrev RegistryReadSituation (Digest : Type) [DecidableEq Digest] :=
  Workforce.Situation (RegistryServing Digest) RegistryReadPhase

abbrev RegistryReadEvent (Digest : Type) [DecidableEq Digest] :=
  Workforce.Event RegistryReadLaunch Unit (RegistryEvent Digest)

/-- The situation after `events`, without readers and registries at first. -/
def registryReadRun (platform : Platform) (secrets : RegistrySecrets Digest) (check : EntryCheck)
    (surroundings : Surroundings Digest) (events : List (RegistryReadEvent Digest)) :
    RegistryReadSituation Digest :=
  run (registryReaders platform secrets check).step ⟨.initial (.initial surroundings), []⟩ events

end

end RvcOrchestrator.Manager

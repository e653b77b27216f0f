import RvcOrchestrator.Manager.RegistryReads

/-! # Snapshots of the model registry

Every mutation raises the version of its registry, if the clock has moved on. What a reader
has seen under one version is then one commit, whatever goes on in between.
-/

namespace RvcOrchestrator.Manager

open RvcOrchestrator.Foundation RvcOrchestrator.Contracts

/-! ## Mutations and views -/

section

variable {entries : Table RegistryEntryId ModelRegistryEntry} {experimentId : ExperimentId}

/-- An update of an entry of another experiment. -/
theorem filter_modify_elsewhere {entryId : RegistryEntryId}
    {change : ModelRegistryEntry → ModelRegistryEntry}
    (elsewhere : ∀ entry, entries.find? entryId = some entry →
      entry.experimentId ≠ experimentId ∧ (change entry).experimentId ≠ experimentId) :
    (entries.modify entryId change).rows.filter (fun row => row.2.experimentId = experimentId) =
      entries.rows.filter fun row => row.2.experimentId = experimentId := by
  apply Table.rows_modify_filter
  intro entry found
  rcases elsewhere entry found with ⟨before, after⟩
  exact ⟨decide_eq_false before, decide_eq_false after⟩

theorem filter_insert_elsewhere {entryId : RegistryEntryId} {entry : ModelRegistryEntry}
    (fresh : entries.find? entryId = none) (elsewhere : entry.experimentId ≠ experimentId) :
    (entries.insert entryId entry fresh).rows.filter
        (fun row => row.2.experimentId = experimentId) =
      entries.rows.filter fun row => row.2.experimentId = experimentId :=
  Table.rows_insert_filter entries fresh (decide_eq_false elsewhere)

theorem filter_vacateSlot_elsewhere {other : ExperimentId} (elsewhere : other ≠ experimentId)
    (now : Time) :
    (vacateSlot entries other now).rows.filter (fun row => row.2.experimentId = experimentId) =
      entries.rows.filter fun row => row.2.experimentId = experimentId := by
  unfold vacateSlot
  split
  · rfl
  · next previous active =>
      rcases activeEntryId_eq_some active with ⟨champion, championFound, ofOther, -⟩
      apply filter_modify_elsewhere
      intro entry found
      rcases Option.some.inj (championFound.symm.trans found) with rfl
      exact ⟨ofOther ▸ elsewhere, ofOther ▸ elsewhere⟩

/-- Vacating a slot leaves every entry with its experiment. -/
theorem experimentId_vacateSlot {other : ExperimentId} {now : Time} {entryId : RegistryEntryId}
    {entry : ModelRegistryEntry}
    (found : (vacateSlot entries other now).find? entryId = some entry) :
    ∃ before, entries.find? entryId = some before ∧ before.experimentId = entry.experimentId := by
  unfold vacateSlot at found
  split at found
  · exact ⟨entry, found, rfl⟩
  · next previous _ =>
      rcases (Table.find?_modify_eq_some_iff _ _ _).mp found with ⟨before, beforeFound, same⟩
      refine ⟨before, beforeFound, ?_⟩
      rw [same]
      split <;> rfl

end

section

variable {Digest : Type} [DecidableEq Digest] {platform : Platform}
  {secrets : RegistrySecrets Digest} {state : RegistryState Digest} {request : RegistryRequest}
  {experimentId : ExperimentId}

theorem EntryMutation.elsewhere {after : Table RegistryEntryId ModelRegistryEntry}
    (mutation : EntryMutation platform state request after)
    (elsewhere : request.experimentId ≠ experimentId) :
    after.rows.filter (fun row => row.2.experimentId = experimentId) =
      state.entries.rows.filter fun row => row.2.experimentId = experimentId := by
  cases mutation with
  | registered asked eligible unregistered fresh => exact filter_insert_elsewhere fresh elsewhere
  | promoted asked found here live =>
      refine (filter_modify_elsewhere ?_).trans
        (filter_vacateSlot_elsewhere elsewhere request.now)
      intro vacated vacatedFound
      rcases experimentId_vacateSlot vacatedFound with ⟨before, beforeFound, same⟩
      rcases Option.some.inj (found.symm.trans beforeFound) with rfl
      exact ⟨same ▸ here ▸ elsewhere, here ▸ elsewhere⟩
  | revoked asked found here live =>
      apply filter_modify_elsewhere
      intro before beforeFound
      rcases Option.some.inj (found.symm.trans beforeFound) with rfl
      exact ⟨here ▸ elsewhere, here ▸ elsewhere⟩

/-- A transaction leaves the entries of other experiments alone. -/
theorem mutateRegistry_elsewhere (platform : Platform) (secrets : RegistrySecrets Digest)
    (memory : RegistryMemory Digest) (state : RegistryState Digest)
    (elsewhere : request.experimentId ≠ experimentId) :
    (mutateRegistry platform secrets request memory state).2.entries.rows.filter
        (fun row => row.2.experimentId = experimentId) =
      state.entries.rows.filter fun row => row.2.experimentId = experimentId := by
  rcases mutateRegistry_cases platform secrets request memory state with
    ⟨same, -⟩ | ⟨result, mutated⟩
  · rw [same]
  · exact mutated.mutation.elsewhere elsewhere

/-- Every mutation raises the version of its own registry and no other. -/
theorem advances_mutateRegistry (platform : Platform) (secrets : RegistrySecrets Digest)
    (memory : RegistryMemory Digest) (differs : ClockDiffers state.registries request)
    (experimentId : ExperimentId) :
    Advances RegistryView.version (registryView state experimentId)
      (registryView (mutateRegistry platform secrets request memory state).2 experimentId) := by
  rcases mutateRegistry_cases platform secrets request memory state with
    ⟨same, -⟩ | ⟨result, mutated⟩
  · rw [same]
    exact .refl _ _
  · have counted := registryVersion_advanceRegistry differs experimentId
    rw [← mutated.registries] at counted
    by_cases here : experimentId = request.experimentId
    · rw [if_pos here] at counted
      exact .inr (Nat.lt_of_lt_of_eq (Nat.lt_succ_self _) counted.symm)
    · rw [if_neg here] at counted
      have rows := mutateRegistry_elsewhere platform secrets memory state (Ne.symm here)
      exact .inl (congrArg₂ RegistryView.mk counted rows)

theorem advances_step (serving : RegistryServing Digest) (event : RegistryEvent Digest)
    (differ : ClocksDiffer serving event) (experimentId : ExperimentId) :
    Advances RegistryView.version (registryView serving.state experimentId)
      (registryView ((modelRegistry platform secrets).step serving event).state experimentId) := by
  rcases (modelRegistry platform secrets).step_cases serving event with
    ⟨same, -⟩ | ⟨_, _, _, -, -, same, -⟩ | ⟨place, request, memory, proceeds, commits, changed, -⟩ |
      ⟨surroundings, -, changed, -⟩
  · rw [same]
    exact .refl _ _
  · rw [same]
    exact .refl _ _
  · rw [changed]
    exact advances_mutateRegistry platform secrets memory
      (differ place request memory proceeds commits) experimentId
  · rw [changed]
    exact .refl _ _

end

/-! ## What readers know -/

namespace RegistryView

variable {view : RegistryView}

theorem length_sorted (view : RegistryView) : view.sorted.length = view.rows.length :=
  List.length_insertionSort ..

theorem length_entries (view : RegistryView) : view.entries.length = view.rows.length :=
  (List.length_map ..).trans view.length_sorted

/-- Rows that are current are as they would be loaded. -/
theorem map_loaded (keys : (view.rows.map Prod.fst).Nodup) {rows : List RegistryRow}
    (current : ∀ row ∈ rows, row ∈ view.rows) : rows.map (loaded view.activeRow) = rows := by
  rw [List.map_congr_left (g := id), List.map_id]
  intro row member
  unfold loaded
  split
  · rfl
  · next known active =>
      split
      · next same =>
          have knownMember : known ∈ view.rows := List.mem_of_find?_eq_some active
          exact List.inj_on_of_nodup_map keys knownMember (current row member) same
      · rfl

def snapshot (view : RegistryView) : ModelRegistrySnapshot :=
  ⟨⟨view.version, view.activeEntryId, true, view.rows.length⟩, view.entries⟩

end RegistryView

def GetRegistryStage.version? : GetRegistryStage → Option Nat
  | activating version => some version
  | counting version _ => some version
  | listing version _ _ => some version
  | versioning version _ _ _ => some version
  | confirming version _ _ _ _ => some version
  | _ => none

def GetRegistryStage.Shows (request : RegistryReadRequest) (view : RegistryView) :
    GetRegistryStage → Prop
  | counting _ active => active = view.activeRow
  | listing _ active total => active = view.activeRow ∧ total = view.rows.length
  | versioning _ active total entries =>
      active = view.activeRow ∧ total = view.rows.length ∧
        entries = (view.sorted.drop request.offset).take request.limit
  | confirming _ active total entries _ =>
      active = view.activeRow ∧ total = view.rows.length ∧
        entries = (view.sorted.drop request.offset).take request.limit
  | _ => True

def SnapshotProgress.Shows (progress : SnapshotProgress) (view : RegistryView) : Prop :=
  progress.items = view.entries.take progress.offset

def SnapshotProgress.Fits (view : RegistryView) (progress : SnapshotProgress) : Prop :=
  match progress.expected with
  | none => progress.offset = 0 ∧ progress.items = []
  | some expected =>
      Known RegistryView.version expected.registryRowVersion progress.Shows view

/-- If the first page came from the version of the view, all pages so far did. -/
def SnapshotProgress.Agrees (progress : SnapshotProgress) (view : RegistryView) : Prop :=
  (∀ expected ∈ progress.expected, expected.registryRowVersion = view.version) →
    progress.Shows view

def RegistryReader.Fits (view : RegistryView) : RegistryReader → Prop
  | api => True
  | browser progress => progress.Fits view

def RegistryReader.Agrees (view : RegistryView) : RegistryReader → Prop
  | api => True
  | browser progress => progress.Agrees view

theorem SnapshotProgress.Fits.agrees {progress : SnapshotProgress} {view : RegistryView}
    (fits : progress.Fits view) : progress.Agrees view := by
  intro expected
  unfold SnapshotProgress.Fits at fits
  split at fits
  · rw [SnapshotProgress.Shows, fits.1, fits.2]
    rfl
  · next first found => exact fits.current (expected first found).symm

theorem RegistryReader.Fits.agrees {reader : RegistryReader} {view : RegistryView}
    (fits : reader.Fits view) : reader.Agrees view := by
  cases reader with
  | api => trivial
  | browser progress => exact SnapshotProgress.Fits.agrees fits

theorem SnapshotProgress.Fits.advance {progress : SnapshotProgress} {view after : RegistryView}
    (fits : progress.Fits view) (advances : Advances RegistryView.version view after) :
    progress.Fits after := by
  unfold SnapshotProgress.Fits at fits ⊢
  split
  · next none =>
      rw [none] at fits
      exact fits
  · next expected found =>
      rw [found] at fits
      exact Known.advance fits advances

theorem RegistryReader.Fits.advance {reader : RegistryReader} {view after : RegistryView}
    (fits : reader.Fits view) (advances : Advances RegistryView.version view after) :
    reader.Fits after := by
  cases reader with
  | api => trivial
  | browser progress => exact SnapshotProgress.Fits.advance fits advances

section

variable {Digest : Type} [DecidableEq Digest]

/-- `Past` are the views that have been current. -/
structure ReadFits (Past : ExperimentId → RegistryView → Prop) (view : RegistryView)
    (reader : RegistryReader) (request : RegistryReadRequest) (stage : GetRegistryStage) :
    Prop where
  earlier : reader.Fits view
  known : ∀ version ∈ stage.version?,
    Known RegistryView.version version (stage.Shows request) view
  /-- A read that has found its version again has seen one view. -/
  confirmed : ∀ version active total entries,
    stage = .confirming version active total entries (some version) →
    ∃ past, Past request.experimentId past ∧ past.version = version ∧
      stage.Shows request past ∧ reader.Agrees past

def RegistryReadPhase.Fits (Past : ExperimentId → RegistryView → Prop)
    (state : RegistryState Digest) : RegistryReadPhase → Prop
  | reading reader request stage =>
      ReadFits Past (registryView state request.experimentId) reader request stage
  | returned request page =>
      ∃ past, Past request.experimentId past ∧
        page = past.page request.experimentId request.offset request.limit
  | completed experimentId snapshot =>
      ∃ past, Past experimentId past ∧ snapshot = past.snapshot ∧
        (snapshot.items.map (·.id)).Nodup

def RegistriesBegun (state : RegistryState Digest) : Prop :=
  ∀ experimentId, (registryView state experimentId).version = 0 →
    (registryView state experimentId).rows = []

theorem keys_registryView (state : RegistryState Digest) (experimentId : ExperimentId) :
    ((registryView state experimentId).rows.map Prod.fst).Nodup :=
  state.entries.keysNodup.sublist (List.filter_sublist.map Prod.fst)

theorem RegistryReadPhase.Fits.advance {Past : ExperimentId → RegistryView → Prop}
    {state after : RegistryState Digest} {phase : RegistryReadPhase}
    (fits : phase.Fits Past state)
    (advances : ∀ experimentId, Advances RegistryView.version (registryView state experimentId)
      (registryView after experimentId)) : phase.Fits Past after := by
  cases phase with
  | reading reader request stage =>
      exact ⟨RegistryReader.Fits.advance fits.earlier (advances request.experimentId),
        fun version begun => (fits.known version begun).advance (advances request.experimentId),
        fits.confirmed⟩
  | returned request page => exact fits
  | completed experimentId snapshot => exact fits

/-! ### Pages -/

variable {check : EntryCheck} {Past : ExperimentId → RegistryView → Prop}

/-- A page that follows the entries so far continues them. -/
theorem shows_append {progress : SnapshotProgress} {view : RegistryView}
    (shows : progress.Shows view) {page : ModelRegistryRead} {limit : Nat}
    (items : page.items = (view.entries.drop progress.offset).take limit) :
    progress.items ++ page.items =
      view.entries.take (progress.offset + page.items.length) := by
  have short : page.items = (view.entries.drop progress.offset).take page.items.length := by
    rw [items, List.length_take, List.take_eq_take_min]
  rw [shows, List.take_add, ← short]

theorem receive_continues {progress next : SnapshotProgress} {page : ModelRegistryRead}
    {experimentId : ExperimentId}
    (continued : progress.receive check experimentId page = .continues next) :
    page.offset = progress.offset ∧
      (∀ expected ∈ progress.expected, expected = page.expectation) ∧
      next = ⟨progress.offset + page.items.length, some page.expectation,
        progress.items ++ page.items⟩ := by
  unfold SnapshotProgress.receive at continued
  split at continued
  · nomatch continued
  · next accepted =>
      split at continued
      · nomatch continued
      · simp only at continued
        split at continued
        · nomatch continued
        · next same =>
            rw [not_not] at same
            have expected : ∀ expected ∈ progress.expected, expected = page.expectation := by
              intro expected first
              rw [Option.mem_def.mp first] at same
              exact same.symm
            split at continued
            · split at continued <;> nomatch continued
            · split at continued
              · nomatch continued
              · cases continued
                rw [← same]
                exact ⟨(Decidable.not_not.mp accepted).2.2.2.1, expected, rfl⟩

theorem receive_completes {progress : SnapshotProgress} {page : ModelRegistryRead}
    {experimentId : ExperimentId} {snapshot : ModelRegistrySnapshot}
    (completed : progress.receive check experimentId page = .completes snapshot) :
    page.offset = progress.offset ∧
      (∀ expected ∈ progress.expected, expected = page.expectation) ∧
      page.total ≤ progress.offset + page.items.length ∧
      snapshot = ⟨page.expectation, progress.items ++ page.items⟩ ∧
      (snapshot.items.map (·.id)).Nodup := by
  unfold SnapshotProgress.receive at completed
  split at completed
  · nomatch completed
  · next accepted =>
      split at completed
      · nomatch completed
      · simp only at completed
        split at completed
        · nomatch completed
        · next same =>
            rw [not_not] at same
            have expected : ∀ expected ∈ progress.expected, expected = page.expectation := by
              intro expected first
              rw [Option.mem_def.mp first] at same
              exact same.symm
            split at completed
            · next all =>
                split at completed
                · next valid =>
                    cases completed
                    rw [← same] at valid ⊢
                    simp only [validCompleteRegistry, Bool.and_eq_true, decide_eq_true_eq] at valid
                    exact ⟨(Decidable.not_not.mp accepted).2.2.2.1, expected, all, rfl,
                      valid.1.1.2⟩
                · nomatch completed
            · split at completed <;> nomatch completed

theorem fits_receive {reader : RegistryReader} {request : RegistryReadRequest}
    {view past : RegistryView} {page : ModelRegistryRead} {next : RegistryReadPhase}
    {state : RegistryState Digest}
    (current : registryView state request.experimentId = view)
    (isPast : Past request.experimentId past)
    (page_eq : page = past.page request.experimentId request.offset request.limit)
    (agreesPast : reader.Agrees past)
    (known : Known RegistryView.version page.registryRowVersion (fun view =>
      page = view.page request.experimentId request.offset request.limit) view)
    (fits : reader.Fits view)
    (received : reader.receive check request page = some next) : next.Fits Past state := by
  cases reader with
  | api =>
      rcases Option.some.inj received with rfl
      exact ⟨past, isPast, page_eq⟩
  | browser progress =>
      simp only [RegistryReader.receive] at received
      have agrees := SnapshotProgress.Fits.agrees fits
      have follows (placed : page.offset = progress.offset) (view : RegistryView)
          (same : page = view.page request.experimentId request.offset request.limit) :
          page.items = (view.entries.drop progress.offset).take request.limit := by
        rw [← placed, same]
        rfl
      split at received
      · nomatch received
      · next progress' continued =>
          rcases Option.some.inj received with rfl
          rcases receive_continues continued with ⟨placed, expected, rfl⟩
          refine ⟨?_, fun _ begun => (nomatch begun), fun _ _ _ _ confirming => nomatch confirming⟩
          subst current
          apply known.mono
          intro same isPage
          have shows := agrees fun first isFirst => by
            rw [expected first isFirst]
            exact same.symm
          exact shows_append shows (follows placed _ isPage)
      · next snapshot completed =>
          rcases Option.some.inj received with rfl
          rcases receive_completes completed with ⟨placed, expected, all, rfl, distinct⟩
          refine ⟨past, isPast, ?_, distinct⟩
          have shows := agreesPast fun first isFirst => by
            rw [expected first isFirst, page_eq]
            rfl
          have items := shows_append shows (follows placed past page_eq)
          have whole : past.entries.length ≤ progress.offset + page.items.length := by
            have total : page.total = past.rows.length := congrArg ModelRegistryRead.total page_eq
            rw [past.length_entries, ← total]
            exact all
          rw [items, List.take_of_length_le whole, page_eq]
          rfl

/-! ### Statements -/

theorem registryVersion_of_find? {registries : Table ExperimentId ExperimentModelRegistry}
    {experimentId : ExperimentId} {registry : ExperimentModelRegistry}
    (found : registries.find? experimentId = some registry) :
    registryVersion registries experimentId = registry.rowVersion := by
  rw [registryVersion, found]
  rfl

/-- A read goes on with what it knows. -/
theorem fits_goes {state : RegistryState Digest} {reader : RegistryReader}
    {request : RegistryReadRequest} {stage next : GetRegistryStage}
    (fits : ReadFits Past (registryView state request.experimentId) reader request stage)
    (isPast : Past request.experimentId (registryView state request.experimentId))
    (goes : getRegistry state request stage = .goes next) :
    ReadFits Past (registryView state request.experimentId) reader request next := by
  cases stage with
  | authenticating =>
      simp only [getRegistry] at goes
      split at goes
      · nomatch goes
      · split at goes
        · nomatch goes
        · cases goes
          exact ⟨fits.earlier, fun _ begun => (nomatch begun),
            fun _ _ _ _ confirming => nomatch confirming⟩
  | visiting actor =>
      simp only [getRegistry] at goes
      split at goes
      · nomatch goes
      · cases goes
        exact ⟨fits.earlier, fun _ begun => (nomatch begun),
          fun _ _ _ _ confirming => nomatch confirming⟩
  | locating =>
      simp only [getRegistry] at goes
      split at goes
      · cases goes
        exact ⟨fits.earlier, fun _ begun => (nomatch begun),
          fun _ _ _ _ confirming => nomatch confirming⟩
      · next registry found =>
          cases goes
          refine ⟨fits.earlier, fun version begun => ?_,
            fun _ _ _ _ confirming => nomatch confirming⟩
          rcases Option.some.inj begun with rfl
          have version := registryVersion_of_find? found
          exact ⟨Nat.le_of_eq version.symm, fun _ => trivial⟩
  | rechecking =>
      simp only [getRegistry] at goes
      split at goes <;> nomatch goes
  | activating version =>
      cases goes
      refine ⟨fits.earlier, fun same begun => ?_, fun _ _ _ _ confirming => nomatch confirming⟩
      rcases Option.some.inj begun with rfl
      exact (fits.known version rfl).mono fun _ _ => rfl
  | counting version active =>
      cases goes
      refine ⟨fits.earlier, fun same begun => ?_, fun _ _ _ _ confirming => nomatch confirming⟩
      rcases Option.some.inj begun with rfl
      exact (fits.known version rfl).mono fun _ shows => ⟨shows, rfl⟩
  | listing version active total =>
      cases goes
      refine ⟨fits.earlier, fun same begun => ?_, fun _ _ _ _ confirming => nomatch confirming⟩
      rcases Option.some.inj begun with rfl
      apply (fits.known version rfl).mono
      rintro - ⟨rfl, rfl⟩
      refine ⟨rfl, rfl, ?_⟩
      apply RegistryView.map_loaded (keys_registryView state request.experimentId)
      intro row member
      exact (List.mem_insertionSort NewerOrSame).mp
        (List.mem_of_mem_drop (List.mem_of_mem_take member))
  | versioning version active total entries =>
      cases goes
      refine ⟨fits.earlier, fun same begun => ?_, fun again _ _ _ confirming => ?_⟩
      · rcases Option.some.inj begun with rfl
        exact fits.known version rfl
      · injection confirming with isVersion _ _ _ final
        rcases Option.map_eq_some_iff.mp final with ⟨registry, found, current⟩
        have unchanged : (registryView state request.experimentId).version = version :=
          (registryVersion_of_find? found).trans (current.trans isVersion.symm)
        exact ⟨_, isPast, unchanged.trans isVersion, (fits.known version rfl).current unchanged,
          fits.earlier.agrees⟩
  | confirming version active total entries final =>
      simp only [getRegistry] at goes
      split at goes <;> nomatch goes

/-- A read that returns has seen one view. -/
theorem fits_returns {state : RegistryState Digest} {reader : RegistryReader}
    {request : RegistryReadRequest} {stage : GetRegistryStage} {page : ModelRegistryRead}
    (begun : RegistriesBegun state)
    (fits : ReadFits Past (registryView state request.experimentId) reader request stage)
    (isPast : Past request.experimentId (registryView state request.experimentId))
    (returns : getRegistry state request stage = .returns page) :
    (∃ past, Past request.experimentId past ∧
      page = past.page request.experimentId request.offset request.limit ∧ reader.Agrees past) ∧
      Known RegistryView.version page.registryRowVersion (fun view =>
        page = view.page request.experimentId request.offset request.limit)
        (registryView state request.experimentId) := by
  cases stage with
  | rechecking =>
      simp only [getRegistry] at returns
      split at returns
      · next none =>
          cases returns
          have version : (registryView state request.experimentId).version = 0 := by
            simp only [registryView, registryVersion, none, Option.elim_none]
          have rows := begun request.experimentId version
          have shows : emptyRegistry request =
              (registryView state request.experimentId).page request.experimentId request.offset
                request.limit := by
            simp only [RegistryView.page, RegistryView.activeEntryId, RegistryView.activeRow,
              RegistryView.entries, RegistryView.sorted, version, rows]
            simp [emptyRegistry]
          exact ⟨⟨_, isPast, shows, fits.earlier.agrees⟩, Nat.zero_le _, fun _ => shows⟩
      · cases returns
  | confirming version active total entries final =>
      simp only [getRegistry] at returns
      split at returns
      · cases returns
      · next confirmed =>
          cases returns
          simp only [not_or, not_not] at confirmed
          have final_eq := confirmed.1
          have shows (view : RegistryView) (isVersion : view.version = version)
              (showsView : GetRegistryStage.Shows request view
                (.confirming version active total entries final)) :
              (⟨request.experimentId, version, active.map Prod.fst, true,
                entries.map fun row => entryToRead row.1 row.2, total, request.offset,
                request.limit⟩ : ModelRegistryRead) =
                view.page request.experimentId request.offset request.limit := by
            rcases showsView with ⟨rfl, rfl, rfl⟩
            rw [← isVersion, RegistryView.page, RegistryView.entries, List.map_take,
              List.map_drop]
            rfl
          rcases fits.confirmed version active total entries (by rw [final_eq]) with
            ⟨past, pastIs, isVersion, showsPast, agrees⟩
          refine ⟨⟨past, pastIs, shows past isVersion showsPast, agrees⟩, ?_⟩
          exact (fits.known version rfl).mono fun same => shows _ same
  | authenticating =>
      simp only [getRegistry] at returns
      split at returns
      · cases returns
      · split at returns <;> cases returns
  | visiting actor =>
      simp only [getRegistry] at returns
      split at returns <;> cases returns
  | locating =>
      simp only [getRegistry] at returns
      split at returns <;> cases returns
  | activating version => cases returns
  | counting version active => cases returns
  | listing version active total => cases returns
  | versioning version active total entries => cases returns

/-! ## Whole runs -/

variable {platform : Platform} {secrets : RegistrySecrets Digest}

/-- The clock that a mutation writes differs from the stored one. -/
def ReadsClocksDiffer (situation : RegistryReadSituation Digest) :
    RegistryReadEvent Digest → Prop
  | .disturb event => ClocksDiffer situation.state event
  | _ => True

theorem RegistriesBegun.advance {state after : RegistryState Digest}
    (begun : RegistriesBegun state)
    (advances : ∀ experimentId, Advances RegistryView.version (registryView state experimentId)
      (registryView after experimentId)) : RegistriesBegun after := by
  intro experimentId version
  rcases advances experimentId with same | later
  · rw [same] at version ⊢
    exact begun experimentId version
  · omega

/-- What every step keeps, while `Past` holds of the views that it starts with. -/
theorem readersPreserve (Past : ExperimentId → RegistryView → Prop) :
    Workforce.Preserves (registryReaders platform secrets check)
      (fun situation event => ReadsClocksDiffer situation event ∧
        ∀ experimentId, Past experimentId (registryView situation.state.state experimentId))
      (fun serving => RegistriesBegun serving.state)
      (fun serving phase => phase.Fits Past serving.state) where
  launched situation launch phase state _ begun launched := by
    rcases Option.some.inj launched with ⟨rfl, rfl⟩
    refine ⟨begun, ?_, fun _ fits => fits⟩
    cases launch with
    | getRegistry request =>
        exact ⟨trivial, fun _ begun => (nomatch begun), fun _ _ _ _ same => nomatch same⟩
    | fetchModelRegistrySnapshot actorId experimentId =>
        exact ⟨⟨rfl, rfl⟩, fun _ begun => (nomatch begun), fun _ _ _ _ same => nomatch same⟩
  moved situation place choice phase met found begun fits := by
    refine ⟨begun, ?_, fits⟩
    intro next becomes
    have own := fits phase (List.mem_of_getElem? found)
    cases phase with
    | returned request page =>
        rcases Option.some.inj becomes with rfl
        exact own
    | completed experimentId snapshot =>
        rcases Option.some.inj becomes with rfl
        exact own
    | reading reader request stage =>
        have isPast := met.2 request.experimentId
        simp only [registryReaders, advanceRegistryRead] at becomes
        split at becomes
        · nomatch becomes
        · next next goes =>
            rcases Option.some.inj becomes with rfl
            exact fits_goes own isPast goes
        · next page returns =>
            rcases fits_returns begun own isPast returns with
              ⟨⟨past, pastIs, isPage, agrees⟩, known⟩
            exact fits_receive rfl pastIs isPage agrees known own.earlier becomes
  disturbed situation event state met begun disturbed := by
    rcases Option.some.inj disturbed with rfl
    have advances : ∀ experimentId, Advances RegistryView.version
        (registryView situation.state.state experimentId)
        (registryView ((modelRegistry platform secrets).step situation.state event).state
          experimentId) :=
      advances_step situation.state event met.1
    exact ⟨begun.advance advances, fun phase fits => RegistryReadPhase.Fits.advance fits advances⟩

/-- Every page that has been returned, and every snapshot that the browser has put together,
shows the registry as one commit left it. -/
structure RegistryReadsAreSnapshots (platform : Platform) (secrets : RegistrySecrets Digest)
    (check : EntryCheck) (surroundings : Surroundings Digest)
    (events : List (RegistryReadEvent Digest)) : Prop where
  pages : ∀ request page,
    .returned request page ∈
      (registryReadRun platform secrets check surroundings events).phases →
    ∃ front back, events = front ++ back ∧
      page = (registryView (registryReadRun platform secrets check surroundings front).state.state
        request.experimentId).page request.experimentId request.offset request.limit
  snapshots : ∀ experimentId snapshot,
    .completed experimentId snapshot ∈
      (registryReadRun platform secrets check surroundings events).phases →
    (snapshot.items.map (·.id)).Nodup ∧ ∃ front back, events = front ++ back ∧
      snapshot = (registryView
        (registryReadRun platform secrets check surroundings front).state.state
        experimentId).snapshot

theorem registryReads_areSnapshots (platform : Platform) (secrets : RegistrySecrets Digest)
    (check : EntryCheck) (surroundings : Surroundings Digest)
    (events : List (RegistryReadEvent Digest))
    (differ : Along (registryReaders platform secrets check).step ReadsClocksDiffer
      ⟨.initial (.initial surroundings), []⟩ events) :
    RegistryReadsAreSnapshots platform secrets check surroundings events := by
  let Past (experimentId : ExperimentId) (view : RegistryView) : Prop :=
    ∃ front back, events = front ++ back ∧
      registryView (registryReadRun platform secrets check surroundings front).state.state
        experimentId = view
  have past : Along (registryReaders platform secrets check).step
      (fun situation _ => ∀ experimentId,
        Past experimentId (registryView situation.state.state experimentId))
      ⟨.initial (.initial surroundings), []⟩ events := by
    apply (along_visited _ _ events).mono
    rintro situation _ ⟨front, back, split, reached⟩ experimentId
    exact ⟨front, back, split, by rw [registryReadRun, reached]⟩
  have begun : RegistriesBegun (RegistryState.initial surroundings) := fun _ _ => rfl
  have none : ∀ phase ∈ ([] : List RegistryReadPhase),
      phase.Fits Past (RegistryState.initial surroundings) := fun _ member => nomatch member
  have fits := (readersPreserve Past).run ⟨begun, none⟩ (differ.and past)
  constructor
  · intro request page member
    rcases fits.2 _ member with ⟨view, ⟨front, back, split, rfl⟩, same⟩
    exact ⟨front, back, split, same⟩
  · intro experimentId snapshot member
    rcases fits.2 _ member with ⟨view, ⟨front, back, split, rfl⟩, same, distinct⟩
    exact ⟨distinct, front, back, split, same⟩

/-! ## A reader beside changes -/

theorem filter_insert_here {entries : Table RegistryEntryId ModelRegistryEntry}
    {entryId : RegistryEntryId} {entry : ModelRegistryEntry}
    (fresh : entries.find? entryId = none) (here : entry.experimentId = experimentId) :
    (entries.insert entryId entry fresh).rows.filter
        (fun row => row.2.experimentId = experimentId) =
      entries.rows.filter (fun row => row.2.experimentId = experimentId) ++ [(entryId, entry)] := by
  simp [Table.insert, List.filter_append, here]

theorem find?_advanceRegistry {registries : Table ExperimentId ExperimentModelRegistry}
    (experimentId : ExperimentId) (now : Time) :
    (advanceRegistry registries experimentId now).2.find? experimentId =
      some ((registries.find? experimentId).elim ⟨1, now⟩ fun registry =>
        if registry.updatedAt = now then registry else ⟨registry.rowVersion + 1, now⟩) := by
  unfold advanceRegistry
  split
  · next none => simp [none]
  · next registry found => simp [found]

/-- What the transaction of an accepted candidate leaves behind. -/
theorem mutateRegistry_candidate {payload : ModelRegistryCandidateCreate}
    {context : CandidateContext} {memory : RegistryMemory Digest}
    (isCandidate : request.operation = .candidate payload)
    (locked : lockExperimentFence state request = .ok ())
    (unrecorded : registryReplay secrets state request = .fresh)
    (versioned : requireRegistryVersion (state.registries.find? request.experimentId)
      payload.expectedRegistryRowVersion.1 = .ok ())
    (unregistered : requireUnregistered state payload.modelArtifactId = .ok ())
    (preflight : memory.fingerprint = some (secrets.canonicalSha256 context.document))
    (found : candidateContext platform state.sources request.experimentId
      payload.sourceJobId payload.sourceAttemptId payload.modelArtifactId true = .ok context)
    (absent : (state.entries.rows.any fun row =>
      row.2.snapshot.model.id = context.snapshot.model.id) = false)
    (fresh : state.entries.find? request.newId = none) :
    ∃ operations, (mutateRegistry platform secrets request memory state).2 =
        { state with
          registries :=
            (advanceRegistry state.registries request.experimentId request.advancedAt).2
          entries := state.entries.insert request.newId (candidateEntry request context) fresh
          operations := operations } ∧
      ∀ key, key ≠ (request.actorId, actorKeyHash secrets request) →
        operations.find? key = state.operations.find? key := by
  have accepted : registryChange platform secrets state request memory.fingerprint =
      .ok ⟨request.newId, candidateEntry request context,
        state.entries.insert request.newId (candidateEntry request context) fresh,
        activeEntryId (state.entries.insert request.newId (candidateEntry request context) fresh)
          request.experimentId⟩ := by
    simp only [registryChange, isCandidate, createCandidate, versioned, unregistered, preflight,
      found, absent, ne_eq, not_true_eq_false, if_false, Bool.false_eq_true, dif_pos fresh]
  unfold mutateRegistry
  rw [locked]
  simp only
  split
  · next conflict => cases unrecorded.symm.trans conflict
  · next again => cases unrecorded.symm.trans again
  · rw [accepted]
    refine ⟨_, rfl, ?_⟩
    intro key different
    exact Table.find?_insert_of_ne _ _ _ _ different

/-- A candidate whose checks all succeed. -/
structure Nominates (platform : Platform) (secrets : RegistrySecrets Digest)
    (state : RegistryState Digest) (request : RegistryRequest)
    (payload : ModelRegistryCandidateCreate) (context : CandidateContext) (actor : User) :
    Prop where
  isCandidate : request.operation = .candidate payload
  authenticated : authenticateActor request state ⟨none, none, none⟩ = .ok ⟨some actor, none, none⟩
  visible : requireVisibleExperiment state request.experimentId request.actorId actor = .ok ()
  locked : lockExperimentFence state request = .ok ()
  unrecorded : registryReplay secrets state request = .fresh
  versioned : requireRegistryVersion (state.registries.find? request.experimentId)
    payload.expectedRegistryRowVersion.1 = .ok ()
  unregistered : requireUnregistered state payload.modelArtifactId = .ok ()
  found : candidateContext platform state.sources request.experimentId payload.sourceJobId
    payload.sourceAttemptId payload.modelArtifactId true = .ok context
  verified : verifyContextBytes state.sources context = .ok ()
  absent : (state.entries.rows.any fun row =>
    row.2.snapshot.model.id = context.snapshot.model.id) = false
  fresh : state.entries.find? request.newId = none

theorem Nominates.readAll {payload : ModelRegistryCandidateCreate} {context : CandidateContext}
    {actor : User} (nominates : Nominates platform secrets state request payload context actor) :
    Service.readAll state ((modelRegistry platform secrets).reads request)
        ((modelRegistry platform secrets).start request) =
      .ok ⟨some actor, none, some (secrets.canonicalSha256 context.document)⟩ := by
  simp only [modelRegistry, registryReads, nominates.isCandidate, List.cons_append,
    List.nil_append, Service.readAll, nominates.authenticated, readVisibleExperiment,
    nominates.visible, readReplay, nominates.unrecorded, readRegistryVersion,
    RegistryOperation.expectedRegistryRowVersion, nominates.versioned, readUnregistered,
    nominates.unregistered, preflightContext, nominates.found, nominates.verified]

/-- What a candidate leaves behind that nothing comes between. -/
theorem Nominates.run_alone {payload : ModelRegistryCandidateCreate} {context : CandidateContext}
    {actor : User} (nominates : Nominates platform secrets state request payload context actor)
    (answers : List (RegistryRequest × RegistryAnswer)) :
    ∃ operations answered,
      run (modelRegistry platform secrets).step ⟨state, [], answers⟩
          ((modelRegistry platform secrets).alone request) =
        ⟨{ state with
            registries :=
              (advanceRegistry state.registries request.experimentId request.advancedAt).2
            entries := state.entries.insert request.newId (candidateEntry request context)
              nominates.fresh
            operations := operations }, [], answered⟩ ∧
      ∀ key, key ≠ (request.actorId, actorKeyHash secrets request) →
        operations.find? key = state.operations.find? key := by
  rcases mutateRegistry_candidate nominates.isCandidate nominates.locked nominates.unrecorded
    nominates.versioned nominates.unregistered
    (show (⟨some actor, none, some (secrets.canonicalSha256 context.document)⟩ :
      RegistryMemory Digest).fingerprint = _ from rfl) nominates.found nominates.absent
    nominates.fresh with ⟨operations, committed, kept⟩
  have ran : run (modelRegistry platform secrets).step ⟨state, [], answers⟩
      ((modelRegistry platform secrets).alone request) = _ :=
    Service.run_alone nominates.readAll
  rw [show (modelRegistry platform secrets).commit = mutateRegistry platform secrets from rfl,
    committed] at ran
  exact ⟨operations, _, ran, kept⟩

/-- Changes of registries beside readers that wait. -/
theorem run_disturb (events : List (RegistryEvent Digest))
    (situation : RegistryReadSituation Digest) :
    run (registryReaders platform secrets check).step situation (events.map .disturb) =
      ⟨run (modelRegistry platform secrets).step situation.state events, situation.phases⟩ := by
  induction events generalizing situation with
  | nil => rfl
  | cons event events induction =>
      rw [List.map_cons, run_cons, run_cons]
      exact induction _

/-- Readers between two changes of registries. -/
theorem run_between {first second : List (RegistryEvent Digest)}
    {begins ends : List (RegistryReadEvent Digest)} {start middle last : RegistryServing Digest}
    {phases : List RegistryReadPhase} {final : RegistryReadSituation Digest}
    (changed : run (modelRegistry platform secrets).step start first = middle)
    (begun : run (registryReaders platform secrets check).step ⟨middle, []⟩ begins =
      ⟨middle, phases⟩)
    (changedAgain : run (modelRegistry platform secrets).step middle second = last)
    (ended : run (registryReaders platform secrets check).step ⟨last, phases⟩ ends = final) :
    run (registryReaders platform secrets check).step ⟨start, []⟩
      (first.map .disturb ++ begins ++ second.map .disturb ++ ends) = final := by
  have before : run (registryReaders platform secrets check).step ⟨start, []⟩
      (first.map .disturb) = ⟨middle, []⟩ := by
    rw [run_disturb, changed]
  have between : run (registryReaders platform secrets check).step ⟨middle, phases⟩
      (second.map .disturb) = ⟨last, phases⟩ := by
    rw [run_disturb, changedAgain]
  rw [run_append, run_append, run_append, before, begun, between, ended]

def readerMoves (count : Nat) : List (RegistryReadEvent Digest) :=
  (List.replicate count ()).map (.proceed 0)

theorem run_readerMoves (serving : RegistryServing Digest) (phase : RegistryReadPhase)
    (count : Nat) (next : Option RegistryReadPhase)
    (solo : (registryReaders platform secrets check).solo (some phase) serving
      (List.replicate count ()) = (next, serving)) :
    run (registryReaders platform secrets check).step ⟨serving, [phase]⟩ (readerMoves count) =
      ⟨serving, next.toList⟩ := by
  have last := Workforce.run_last (registryReaders platform secrets check) []
    (List.replicate count ()) (some phase) serving
  rw [solo] at last
  exact last

theorem solo_goes {serving : RegistryServing Digest} {reader : RegistryReader}
    {request : RegistryReadRequest} {stage next : GetRegistryStage}
    (goes : getRegistry serving.state request stage = .goes next) (choices : List Unit) :
    (registryReaders platform secrets check).solo (some (.reading reader request stage)) serving
        (() :: choices) =
      (registryReaders platform secrets check).solo (some (.reading reader request next)) serving
        choices := by
  apply Workforce.solo_of_advance
  simp only [registryReaders, advanceRegistryRead, goes]

theorem solo_returns {serving : RegistryServing Digest} {request : RegistryReadRequest}
    {stage : GetRegistryStage} {page : ModelRegistryRead}
    (returns : getRegistry serving.state request stage = .returns page) :
    (registryReaders platform secrets check).solo (some (.reading .api request stage)) serving
        [()] = (some (.returned request page), serving) := by
  have advanced : (registryReaders platform secrets check).advance ()
      (.reading .api request stage) serving = (some (.returned request page), serving) := by
    simp only [registryReaders, advanceRegistryRead, returns, RegistryReader.receive]
  exact Workforce.solo_of_advance advanced

/-- The first statements of a read, up to the number of entries. -/
theorem run_toListing {serving : RegistryServing Digest} {request : RegistryReadRequest}
    {actor : User} {registry : ExperimentModelRegistry}
    (user : serving.state.accounts.users.find? request.actorId = some actor)
    (enabled : actor.disabled = false)
    (visible : requireVisibleExperiment serving.state request.experimentId request.actorId actor =
      .ok ())
    (found : serving.state.registries.find? request.experimentId = some registry) :
    run (registryReaders platform secrets check).step ⟨serving, []⟩
        (.launch (.getRegistry request) :: readerMoves 5) =
      ⟨serving, [.reading .api request (.listing registry.rowVersion
        (registryView serving.state request.experimentId).activeRow
        (registryView serving.state request.experimentId).rows.length)]⟩ := by
  rw [run_cons]
  refine run_readerMoves serving (.reading .api request .authenticating) 5 (some _) ?_
  have authenticates : getRegistry serving.state request .authenticating =
      .goes (.visiting actor) := by
    simp only [getRegistry, user, enabled, Bool.false_eq_true, if_false]
  have visits : getRegistry serving.state request (.visiting actor) = .goes .locating := by
    simp only [getRegistry, visible]
  have locates : getRegistry serving.state request .locating =
      .goes (.activating registry.rowVersion) := by
    simp only [getRegistry, found]
  rw [show List.replicate 5 () = [(), (), (), (), ()] from rfl, solo_goes authenticates,
    solo_goes visits, solo_goes locates]
  rfl

/-- The last ones, if the registry has the version that the read has begun with, and no
active entry. -/
theorem run_fromListing {serving : RegistryServing Digest} {request : RegistryReadRequest}
    {registry : ExperimentModelRegistry} {total : Nat}
    (found : serving.state.registries.find? request.experimentId = some registry)
    (inactive : (registryView serving.state request.experimentId).activeRow = none) :
    run (registryReaders platform secrets check).step
        ⟨serving, [.reading .api request (.listing registry.rowVersion none total)]⟩
        (readerMoves 3) =
      ⟨serving, [.returned request
        { (registryView serving.state request.experimentId).page request.experimentId
            request.offset request.limit with
          registryRowVersion := registry.rowVersion
          activeEntryId := none
          total := total }]⟩ := by
  refine run_readerMoves serving _ 3 (some _) ?_
  have lists : getRegistry serving.state request (.listing registry.rowVersion none total) =
      .goes (.versioning registry.rowVersion none total
        (((registryView serving.state request.experimentId).sorted.drop request.offset).take
          request.limit)) := by
    have unchanged : loaded none = id := rfl
    simp only [getRegistry, unchanged, List.map_id]
  have versions (entries : List RegistryRow) :
      getRegistry serving.state request (.versioning registry.rowVersion none total entries) =
        .goes (.confirming registry.rowVersion none total entries (some registry.rowVersion)) := by
    simp only [getRegistry, found, Option.map_some]
  rw [show List.replicate 3 () = [(), (), ()] from rfl, solo_goes lists, solo_goes (versions _)]
  apply solo_returns
  simp [getRegistry, inactive, RegistryView.page, RegistryView.entries, List.map_take,
    List.map_drop]

theorem along_disturb {situation : RegistryReadSituation Digest}
    {events : List (RegistryEvent Digest)}
    (differ : Along (modelRegistry platform secrets).step ClocksDiffer situation.state events) :
    Along (registryReaders platform secrets check).step ReadsClocksDiffer situation
      (events.map .disturb) := by
  induction events generalizing situation with
  | nil => trivial
  | cons event events induction => exact ⟨differ.1, induction differ.2⟩

end

/-! ## Two candidates at one moment -/

def secondConfig : JobConfig := sampleConfig ⟨"voice-2", by decide +kernel⟩ .default

def secondJob : JobRow :=
  { createdJob samplePlatform secondConfig 0 with
    status := .completed
    workerId := some 1
    attemptCount := 1
    currentAttemptId := some 2
    startedAt := some 1000 }

def secondAttempt : AttemptRow :=
  { completedAttempt with
    jobId := 2
    jobConfigSha256 := some (samplePlatform.configSha256 secondConfig) }

def twoJobSources : Sources :=
  { sampleSources with
    jobs := (Table.single 1 completedJob).insert 2 secondJob rfl
    attempts := (Table.single 1 completedAttempt).insert 2 secondAttempt rfl
    artifactIds := fun jobId _ artifactType =>
      if artifactType = "final_small_model" then [jobId + 6] else [] }

def twoJobSurroundings : Surroundings SampleDigest :=
  { sampleSurroundings with sources := twoJobSources }

def secondContext : CandidateContext where
  jobId := 2
  job := secondJob
  attemptId := 2
  attempt := secondAttempt
  provenance := sampleProvenance
  model := sampleBinding 8
  index := none
  jobConfigSha256 := samplePlatform.configSha256 secondConfig

def secondNominated : ModelRegistryCandidateCreate := ⟨⟨1, by decide⟩, 2, 2, 8⟩

/-- Sent to a replica with a slower clock. -/
def secondNomination : RegistryRequest :=
  { nomination with
    idempotencyKey := "key-2"
    operation := .candidate secondNominated
    newId := 2 }

theorem candidateContext_first :
    candidateContext samplePlatform twoJobSources completedJob.experimentId 1 1 7 true =
      .ok sampleContext := by
  have models : twoJobSources.artifactIds 1 1 "final_small_model" = [7] := by decide
  have indexes : twoJobSources.artifactIds 1 1 "final_index" = [] := by decide
  exact candidateContext_of_noIndex rfl rfl validatedJobConfig_completedJob rfl isEligible_sample
    models rfl indexes

theorem candidateContext_second :
    candidateContext samplePlatform twoJobSources completedJob.experimentId 2 2 8 true =
      .ok secondContext := by
  have stores := storesConfig_createdJob samplePlatform secondConfig 0
  have valid : validatedJobConfig samplePlatform 2 secondJob (some secondAttempt) =
      .ok secondConfig.normal := by
    apply validatedJobConfig_readBack
      ⟨stores.jobName, stores.experimentId, stores.datasetId, stores.totalEpoch, stores.priority,
        stores.testSetId⟩ (show PyFloat.zero.Small by decide +kernel) (Json.readBack_copy _) rfl
    intro row member
    rcases Option.mem_some_iff.mp member with rfl
    exact ⟨rfl, rfl⟩
  have matches_ : configMatchesJob secondConfig.normal secondJob = true := by
    simp only [configMatchesJob, Bool.and_eq_true, decide_eq_true_eq]
    exact ⟨⟨⟨⟨⟨rfl, rfl⟩, rfl⟩, rfl⟩, rfl⟩, rfl⟩
  have current : isCurrentAttempt secondJob 2 secondAttempt = true := by
    simp only [isCurrentAttempt, Bool.and_eq_true, decide_eq_true_eq]
    exact ⟨⟨⟨rfl, rfl⟩, rfl⟩, rfl⟩
  have bundle : (("sha256:1", "2") : String × String) ∈
      twoJobSources.approvedSampleRuntimeBundles := List.mem_cons_self
  have eligible : isEligible twoJobSources completedJob.experimentId true 2 secondJob 2
      secondAttempt secondConfig.normal = true := by
    simp only [isEligible, matches_, current, Bool.and_eq_true, decide_eq_true_eq]
    refine ⟨⟨⟨⟨⟨⟨⟨⟨⟨rfl, rfl⟩, trivial⟩, rfl⟩, rfl⟩, rfl⟩, rfl⟩, rfl⟩, rfl⟩, ?_⟩
    exact decide_eq_true bundle
  have models : twoJobSources.artifactIds 2 2 "final_small_model" = [8] := by decide
  have indexes : twoJobSources.artifactIds 2 2 "final_index" = [] := by decide
  exact candidateContext_of_noIndex rfl rfl valid rfl eligible models rfl indexes

theorem nominates_first :
    Nominates samplePlatform registrySecrets (.initial twoJobSurroundings) nomination nominated
      sampleContext sampleActor where
  isCandidate := rfl
  authenticated := rfl
  visible := rfl
  locked := rfl
  unrecorded := rfl
  versioned := rfl
  unregistered := rfl
  found := candidateContext_first
  verified := rfl
  absent := rfl
  fresh := rfl

theorem nominates_second {state : RegistryState SampleDigest}
    (accounts : state.accounts = twoJobSurroundings.accounts)
    (experiments : state.experiments = twoJobSurroundings.experiments)
    (sources : state.sources = twoJobSources)
    (versioned : registryVersion state.registries completedJob.experimentId = 1)
    (entries : state.entries.rows = [(1, candidateEntry nomination sampleContext)])
    (unrecorded : state.operations.find? ("ada", actorKeyHash registrySecrets secondNomination) =
      none) :
    Nominates samplePlatform registrySecrets state secondNomination secondNominated
      secondContext sampleActor := by
  have experiment : secondNomination.experimentId = completedJob.experimentId := rfl
  constructor
  case isCandidate => rfl
  case authenticated =>
    simp only [authenticateActor, accounts]
    rfl
  case visible =>
    simp only [requireVisibleExperiment, experiments]
    rfl
  case locked =>
    simp only [lockExperimentFence, requireVisibleExperiment, accounts, experiments]
    rfl
  case unrecorded => exact replay_eq_fresh_iff.mpr unrecorded
  case versioned =>
    have same : (state.registries.find? secondNomination.experimentId).elim 0
        ExperimentModelRegistry.rowVersion = 1 := versioned
    simp [requireRegistryVersion, same, secondNominated]
  case unregistered =>
    simp only [requireUnregistered, entries]
    rfl
  case found =>
    rw [sources]
    exact candidateContext_second
  case verified =>
    rw [sources]
    rfl
  case absent =>
    rw [entries]
    rfl
  case fresh =>
    simp only [Table.find?, entries]
    rfl

def wholeRegistry : RegistryReadRequest := ⟨"ada", completedJob.experimentId, 0, 50⟩

/-- A candidate is registered while a read has counted the entries and not listed them yet, at
the moment that the registry already shows. -/
def mixedRead : List (RegistryReadEvent SampleDigest) :=
  (((modelRegistry samplePlatform registrySecrets).alone nomination).map .disturb) ++
    (.launch (.getRegistry wholeRegistry) :: readerMoves 5) ++
    (((modelRegistry samplePlatform registrySecrets).alone secondNomination).map .disturb) ++
    readerMoves 3

theorem mixedRead_returns :
    ∃ page, .returned wholeRegistry page ∈
        (registryReadRun samplePlatform registrySecrets (fun _ => true) twoJobSurroundings
          mixedRead).phases ∧ page.total = 1 ∧ page.items.length = 2 := by
  rcases nominates_first.run_alone [] with ⟨operations, answered, first, kept⟩
  generalize after : ({ RegistryState.initial twoJobSurroundings with
    registries := (advanceRegistry (RegistryState.initial twoJobSurroundings).registries
      nomination.experimentId nomination.advancedAt).2
    entries := (RegistryState.initial twoJobSurroundings).entries.insert nomination.newId
      (candidateEntry nomination sampleContext) nominates_first.fresh
    operations := operations } : RegistryState SampleDigest) = middle at first
  have registered : middle.registries.find? completedJob.experimentId =
      some ⟨1, nomination.advancedAt⟩ := by
    rw [← after]
    exact find?_advanceRegistry nomination.experimentId nomination.advancedAt
  have rows : middle.entries.rows = [(1, candidateEntry nomination sampleContext)] := by
    rw [← after]
    rfl
  have view : (registryView middle completedJob.experimentId).rows =
      [(1, candidateEntry nomination sampleContext)] := by
    have here : (candidateEntry nomination sampleContext).experimentId =
        completedJob.experimentId := rfl
    rw [← after]
    exact filter_insert_here nominates_first.fresh here
  have unrecorded : middle.operations.find?
      ("ada", actorKeyHash registrySecrets secondNomination) = none := by
    rw [← after]
    exact kept _ (by decide)
  have nominates : Nominates samplePlatform registrySecrets middle secondNomination
      secondNominated secondContext sampleActor :=
    nominates_second (after ▸ rfl) (after ▸ rfl) (after ▸ rfl)
      (registryVersion_of_find? registered) rows unrecorded
  rcases nominates.run_alone answered with ⟨later, answeredTwice, second, -⟩
  generalize last : ({ middle with
    registries := (advanceRegistry middle.registries secondNomination.experimentId
      secondNomination.advancedAt).2
    entries := middle.entries.insert secondNomination.newId
      (candidateEntry secondNomination secondContext) nominates.fresh
    operations := later } : RegistryState SampleDigest) = final at second
  have registeredLast : final.registries.find? completedJob.experimentId =
      some ⟨1, nomination.advancedAt⟩ := by
    have advanced : (advanceRegistry middle.registries secondNomination.experimentId
        secondNomination.advancedAt).2.find? secondNomination.experimentId = _ :=
      find?_advanceRegistry secondNomination.experimentId secondNomination.advancedAt
    rw [show secondNomination.experimentId = completedJob.experimentId from rfl, registered]
      at advanced
    rw [← last]
    exact advanced
  have viewLast : (registryView final completedJob.experimentId).rows =
      [(1, candidateEntry nomination sampleContext),
        (2, candidateEntry secondNomination secondContext)] := by
    have here : (candidateEntry secondNomination secondContext).experimentId =
        completedJob.experimentId := rfl
    rw [← last]
    have appended := filter_insert_here nominates.fresh here
    rw [show (middle.entries.rows.filter fun row =>
      row.2.experimentId = completedJob.experimentId) = _ from view] at appended
    exact appended
  have inactive : (registryView middle completedJob.experimentId).activeRow = none := by
    rw [RegistryView.activeRow, view]
    rfl
  have inactiveLast : (registryView final completedJob.experimentId).activeRow = none := by
    rw [RegistryView.activeRow, viewLast]
    rfl
  have enabled : sampleActor.disabled = false := rfl
  have user : middle.accounts.users.find? wholeRegistry.actorId = some sampleActor := by
    rw [← after]
    rfl
  have visible : requireVisibleExperiment middle wholeRegistry.experimentId
      wholeRegistry.actorId sampleActor = .ok () := by
    rw [← after]
    rfl
  have toListing : run (registryReaders samplePlatform registrySecrets fun _ => true).step
      ⟨⟨middle, [], answered⟩, []⟩ (.launch (.getRegistry wholeRegistry) :: readerMoves 5) = _ :=
    run_toListing user enabled visible registered
  rw [show (registryView (⟨middle, [], answered⟩ : RegistryServing SampleDigest).state
      wholeRegistry.experimentId).activeRow = none from inactive,
    show (registryView (⟨middle, [], answered⟩ : RegistryServing SampleDigest).state
      wholeRegistry.experimentId).rows = _ from view] at toListing
  have fromListing : run (registryReaders samplePlatform registrySecrets fun _ => true).step
      ⟨⟨final, [], answeredTwice⟩,
        [.reading .api wholeRegistry
          (.listing (ExperimentModelRegistry.mk 1 nomination.advancedAt).rowVersion none 1)]⟩
      (readerMoves 3) = _ :=
    run_fromListing registeredLast inactiveLast
  have ran : registryReadRun samplePlatform registrySecrets (fun _ => true) twoJobSurroundings
      mixedRead = ⟨⟨final, [], answeredTwice⟩, [.returned wholeRegistry
        { (registryView final completedJob.experimentId).page completedJob.experimentId 0 50 with
          registryRowVersion := 1
          activeEntryId := none
          total := 1 }]⟩ := by
    exact run_between first toListing second fromListing
  refine ⟨_, by rw [ran]; exact List.mem_singleton_self _, rfl, ?_⟩
  simp [RegistryView.page, RegistryView.length_entries, viewLast]

/-- A page that no commit shows: it counts one entry and has two. -/
theorem mixedRead_notSnapshot :
    ¬∀ events, RegistryReadsAreSnapshots samplePlatform registrySecrets (fun _ => true)
      twoJobSurroundings events := by
  intro always
  rcases mixedRead_returns with ⟨page, returned, total, items⟩
  rcases (always mixedRead).pages _ _ returned with ⟨front, back, -, isPage⟩
  rw [isPage] at total items
  simp [RegistryView.page, RegistryView.length_entries] at total items
  omega

/-- Nominations that meet each other, and a read of what they leave behind. -/
theorem registryReads_areSnapshots_overlap :
    Along (registryReaders samplePlatform registrySecrets fun _ => true).step ReadsClocksDiffer
        ⟨.initial (.initial sampleSurroundings), []⟩
        (overlap.map .disturb ++ .launch (.getRegistry wholeRegistry) :: readerMoves 8) ∧
      RegistryReadsAreSnapshots samplePlatform registrySecrets (fun _ => true) sampleSurroundings
        (overlap.map .disturb ++ .launch (.getRegistry wholeRegistry) :: readerMoves 8) := by
  have nominations : Along (modelRegistry samplePlatform registrySecrets).step ClocksDiffer
      (.initial (.initial sampleSurroundings)) overlap := clocksDiffer_overlap
  have differ : Along (registryReaders samplePlatform registrySecrets fun _ => true).step
      ReadsClocksDiffer ⟨.initial (.initial sampleSurroundings), []⟩
      (overlap.map .disturb ++ .launch (.getRegistry wholeRegistry) :: readerMoves 8) :=
    (along_disturb nominations).append
      ⟨trivial, trivial, trivial, trivial, trivial, trivial, trivial, trivial, trivial, trivial⟩
  exact ⟨differ, registryReads_areSnapshots _ _ _ _ _ differ⟩

end RvcOrchestrator.Manager

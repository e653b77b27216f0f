import RvcOrchestrator.Manager.MlflowSync

/-! # Claims of the MLflow outbox

An event is synced only after it has been projected, stays synced, and is never lost. The
claims are fenced as long as no projector reports while a later one is at work on its event:
the database does not tell the two apart.
-/

namespace RvcOrchestrator.Manager

open RvcOrchestrator.Foundation RvcOrchestrator.Contracts

variable {settings : MlflowSettings}

/-! ## What a step does to the rows -/

namespace MlflowSyncEvent

def Locked (row : MlflowSyncEvent) : Prop := row.status = .processing → row.lockedAt ≠ none

/-- What a claim or a recovery may make of a row. -/
structure Handled (row next : MlflowSyncEvent) : Prop where
  count : next.attemptCount = row.attemptCount
  synced : row.status = .synced → next = row
  onlySynced : next.status = .synced → row.status = .synced
  locked : row.Locked → next.Locked

variable {row middle next : MlflowSyncEvent}

theorem Handled.refl (row : MlflowSyncEvent) : row.Handled row := ⟨rfl, fun _ => rfl, id, id⟩

theorem Handled.trans (first : row.Handled middle) (second : middle.Handled next) :
    row.Handled next where
  count := second.count.trans first.count
  synced synced := by
    have same := first.synced synced
    rw [second.synced (same ▸ synced), same]
  onlySynced synced := first.onlySynced (second.onlySynced synced)
  locked locked := second.locked (first.locked locked)

theorem handled_recover (processing : row.status = .processing) (now : Time) :
    row.Handled (row.recover now) where
  count := rfl
  synced synced := nomatch processing.symm.trans synced
  onlySynced synced := nomatch synced
  locked _ processing := nomatch processing

theorem handled_claim (pending : row.status = .pending) (now : Time) :
    row.Handled (row.claim now) where
  count := rfl
  synced synced := nomatch pending.symm.trans synced
  onlySynced synced := nomatch synced
  locked _ _ := Option.some_ne_none now

end MlflowSyncEvent

namespace MlflowStore

variable {store middle after : MlflowStore}

/-- What claims and recoveries do: every row stays, and goes into process only with a new
claim. -/
structure Handles (store after : MlflowStore) : Prop where
  absent : ∀ id, store.events id = none → after.events id = none
  kept : ∀ id row, store.events id = some row → ∃ next, after.events id = some next ∧
    row.Handled next ∧
      (next.status = .processing → after.claims id = store.claims id → row.status = .processing)
  claims : ∀ id, store.claims id ≤ after.claims id

theorem Handles.ofSame (events : after.events = store.events)
    (claims : after.claims = store.claims) : store.Handles after where
  absent _ absent := events ▸ absent
  kept _ row found := ⟨row, events ▸ found, .refl row, fun processing _ => processing⟩
  claims id := (congrFun claims id).ge

theorem Handles.refl (store : MlflowStore) : store.Handles store := .ofSame rfl rfl

theorem Handles.trans (first : store.Handles middle) (second : middle.Handles after) :
    store.Handles after where
  absent id absent := second.absent id (first.absent id absent)
  kept id row found := by
    rcases first.kept id row found with ⟨between, betweenFound, handled, before⟩
    rcases second.kept id between betweenFound with ⟨next, nextFound, handledNext, after⟩
    refine ⟨next, nextFound, handled.trans handledNext, fun processing same => ?_⟩
    have low := first.claims id
    have high := second.claims id
    exact before (after processing (by omega)) (by omega)
  claims id := (first.claims id).trans (second.claims id)

/-- The row of one event is replaced. -/
theorem Handles.update {id : EventId} {row next : MlflowSyncEvent}
    (found : store.events id = some row) (handled : row.Handled next)
    (unclaimed : next.status = .processing → after.claims id = store.claims id →
      row.status = .processing)
    (events : after.events = Function.update store.events id (some next))
    (claims : ∀ id, store.claims id ≤ after.claims id) : store.Handles after where
  absent other absent := by
    have different : other ≠ id := by
      rintro rfl
      nomatch absent.symm.trans found
    rw [events, Function.update_of_ne different]
    exact absent
  kept other otherRow otherFound := by
    rw [events]
    by_cases same : other = id
    · rcases same with rfl
      rcases Option.some.inj (found.symm.trans otherFound) with rfl
      exact ⟨next, Function.update_self .., handled, unclaimed⟩
    · exact ⟨otherRow, (Function.update_of_ne same ..).trans otherFound, .refl otherRow,
        fun processing _ => processing⟩
  claims := claims

theorem handles_recoverStale (now : Time) (ids : List EventId) :
    store.Handles (store.recoverStale settings now ids) := by
  induction ids generalizing store with
  | nil => exact .refl store
  | cons id ids induction =>
      have first : store.Handles (store.amendEvent id (fun row => row.Stale settings now)
          (·.recover now)) := by
        unfold amendEvent
        split
        · exact .refl store
        · next row found =>
            split
            · next stale =>
                have processing : row.status = .processing := (of_decide_eq_true stale).1
                exact .update found (MlflowSyncEvent.handled_recover processing now)
                  (fun pending => nomatch pending) rfl fun _ => le_refl _
            · exact .refl store
      exact first.trans induction

/-- What a claim finds, and what it takes along. -/
theorem claimEvent_eq_some {now : Time} {id : EventId} {claim : ProjectionClaim}
    (claimed : store.claimEvent now id = some (claim, after)) :
    ∃ row, store.events id = some row ∧ row.status = .pending ∧
      claim = ⟨⟨id, row.eventKey, row.payload, row.attemptCount⟩, store.claims id + 1⟩ ∧
      after = { store.setEvent id (row.claim now) with
        claims := Function.update store.claims id (store.claims id + 1) } := by
  unfold claimEvent at claimed
  split at claimed
  · nomatch claimed
  · next row found =>
      split at claimed
      · next pending =>
          cases claimed
          exact ⟨row, found, pending, rfl, rfl⟩
      · nomatch claimed

theorem handles_claimEvent {now : Time} {id : EventId} {claim : ProjectionClaim}
    (claimed : store.claimEvent now id = some (claim, after)) : store.Handles after := by
  rcases claimEvent_eq_some claimed with ⟨row, found, pending, -, rfl⟩
  apply Handles.update found (MlflowSyncEvent.handled_claim pending now) _ rfl
  · intro other
    by_cases same : other = id
    · rcases same with rfl
      simp
    · simp [Function.update_of_ne same]
  · intro _ same
    simp at same

theorem sameRows_advanceProjection (claim : ProjectionClaim) (choice : ProjectorChoice)
    (stage : ProjectionStage) :
    (advanceProjection store claim choice stage).2.events = store.events ∧
      (advanceProjection store claim choice stage).2.claims = store.claims := by
  cases stage with
  | locating =>
      simp only [advanceProjection]
      split <;> exact ⟨rfl, rfl⟩
  | creating =>
      simp only [advanceProjection]
      split
      · exact ⟨rfl, rfl⟩
      · split
        · exact ⟨rfl, rfl⟩
        · simp only
          split <;> exact ⟨rfl, rfl⟩
  | relocating code =>
      simp only [advanceProjection]
      split <;> exact ⟨rfl, rfl⟩
  | checking run remaining =>
      simp only [advanceProjection]
      split <;> exact ⟨rfl, rfl⟩
  | writing run write remaining =>
      cases write with
      | logBatch marker =>
          simp only [advanceProjection]
          split
          · exact ⟨rfl, rfl⟩
          · simp only
            split <;> exact ⟨rfl, rfl⟩
      | terminal marker status endTimeMs =>
          simp only [advanceProjection]
          split
          · exact ⟨rfl, rfl⟩
          · split
            · exact ⟨rfl, rfl⟩
            · simp only
              split <;> exact ⟨rfl, rfl⟩
  | tagging run marker remaining =>
      simp only [advanceProjection]
      split
      · exact ⟨rfl, rfl⟩
      · simp only
        split <;> exact ⟨rfl, rfl⟩

end MlflowStore

/-! ## Reports -/

def ProjectorPhase.reports? : ProjectorPhase → Option ProjectionClaim
  | .succeeded claim => some claim
  | .failed claim _ => some claim
  | _ => none

def ProjectorPhase.claim? : ProjectorPhase → Option ProjectionClaim
  | .projecting claim _ => some claim
  | .succeeded claim => some claim
  | .failed claim _ => some claim
  | _ => none

theorem ProjectorPhase.claim_of_reports {phase : ProjectorPhase} {claim : ProjectionClaim}
    (reports : phase.reports? = some claim) : phase.claim? = some claim := by
  cases phase <;> first | exact reports | nomatch reports

/-- A report ends the processing of a row, whoever had claimed it. -/
structure ReportsTo (settings : MlflowSettings) (phase : ProjectorPhase)
    (claim : ProjectionClaim) (row next : MlflowSyncEvent) : Prop where
  count : next.attemptCount = claim.event.attemptCount + 1
  ended : next.status ≠ .processing
  synced : next.status = .synced → phase = .succeeded claim

/-- What a report does. -/
theorem advance_reports (settings : MlflowSettings) {store : MlflowStore}
    (choice : ProjectorChoice) {phase : ProjectorPhase} {claim : ProjectionClaim}
    (reports : phase.reports? = some claim) :
    (advanceProjector settings choice phase store).1 = none ∧
      ((∀ row, store.events claim.event.id = some row → row.status ≠ .processing) ∧
          (advanceProjector settings choice phase store).2 = store ∨
        ∃ row next, store.events claim.event.id = some row ∧ row.status = .processing ∧
          ReportsTo settings phase claim row next ∧
          (advanceProjector settings choice phase store).2 =
            store.setEvent claim.event.id next) := by
  have amended (update : MlflowSyncEvent → MlflowSyncEvent)
      (reported : ∀ row, ReportsTo settings phase claim row (update row)) :
      (∀ row, store.events claim.event.id = some row → row.status ≠ .processing) ∧
          store.amendEvent claim.event.id (fun row => row.status = .processing) update = store ∨
        ∃ row next, store.events claim.event.id = some row ∧ row.status = .processing ∧
          ReportsTo settings phase claim row next ∧
          store.amendEvent claim.event.id (fun row => row.status = .processing) update =
            store.setEvent claim.event.id next := by
    unfold MlflowStore.amendEvent
    split
    · next absent => exact .inl ⟨fun row found => (nomatch absent.symm.trans found), rfl⟩
    · next row found =>
        split
        · next processing =>
            exact .inr ⟨row, update row, found, of_decide_eq_true processing, reported row, rfl⟩
        · next idle =>
            refine .inl ⟨fun other otherFound => ?_, rfl⟩
            rcases Option.some.inj (found.symm.trans otherFound) with rfl
            exact fun processing => idle (decide_eq_true processing)
  cases phase with
  | selecting eventKey => nomatch reports
  | claiming now recovered candidate => nomatch reports
  | projecting claim stage => nomatch reports
  | succeeded reporting =>
      rcases Option.some.inj reports with rfl
      exact ⟨rfl, amended _ fun row => ⟨rfl, nofun, fun _ => rfl⟩⟩
  | failed reporting code =>
      rcases Option.some.inj reports with rfl
      exact ⟨rfl, amended _ fun row => ⟨rfl, nofun, fun synced => nomatch synced⟩⟩

/-- What every other move does. -/
theorem advance_handles {store : MlflowStore} {choice : ProjectorChoice} {phase : ProjectorPhase}
    (silent : phase.reports? = none) :
    store.Handles (advanceProjector settings choice phase store).2 := by
  cases phase with
  | selecting eventKey => exact .refl store
  | claiming now recovered candidate =>
      simp only [advanceProjector]
      split
      · exact MlflowStore.handles_recoverStale now recovered
      · split
        · exact .refl store
        · next claim after claimed =>
            exact (MlflowStore.handles_recoverStale now recovered).trans
              (MlflowStore.handles_claimEvent claimed)
  | projecting claim stage =>
      have same : (advanceProjection store claim choice stage).2.events = store.events ∧
          (advanceProjection store claim choice stage).2.claims = store.claims :=
        MlflowStore.sameRows_advanceProjection claim choice stage
      exact .ofSame same.1 same.2
  | succeeded claim => nomatch silent
  | failed claim code => nomatch silent

/-! ## What holds in every situation -/

/-- Later claims have higher numbers, and the newest one knows how often its event has been
attempted. -/
structure ProjectionClaim.Fits (store : MlflowStore) (claim : ProjectionClaim) : Prop where
  drawn : claim.number ≤ store.claims claim.event.id
  newest : claim.number = store.claims claim.event.id →
    ∀ row, store.events claim.event.id = some row → row.status = .processing →
      row.attemptCount = claim.event.attemptCount

def ProjectorPhase.Fits (store : MlflowStore) (phase : ProjectorPhase) : Prop :=
  ∀ claim, phase.claim? = some claim → claim.Fits store

def MlflowStore.Locked (store : MlflowStore) : Prop :=
  ∀ id row, store.events id = some row → row.Locked

theorem ProjectionClaim.Fits.handled {store after : MlflowStore} {claim : ProjectionClaim}
    (fits : claim.Fits store) (handles : store.Handles after) : claim.Fits after where
  drawn := fits.drawn.trans (handles.claims claim.event.id)
  newest newest next nextFound processing := by
    have drawn := fits.drawn
    have grows := handles.claims claim.event.id
    cases found : store.events claim.event.id with
    | none => nomatch nextFound.symm.trans (handles.absent claim.event.id found)
    | some row =>
        rcases handles.kept claim.event.id row found with ⟨same, sameFound, handled, before⟩
        rcases Option.some.inj (nextFound.symm.trans sameFound) with rfl
        rw [handled.count]
        exact fits.newest (by omega) row found (before processing (by omega))

/-- A row that is not in process says nothing about the claims. -/
theorem ProjectionClaim.Fits.replaced {store after : MlflowStore} {claim : ProjectionClaim}
    (fits : claim.Fits store) {id : EventId} {next : MlflowSyncEvent}
    (ended : next.status ≠ .processing)
    (events : after.events = Function.update store.events id (some next))
    (claims : after.claims = store.claims) : claim.Fits after where
  drawn := claims ▸ fits.drawn
  newest newest row found processing := by
    rw [events] at found
    by_cases same : claim.event.id = id
    · rw [same, Function.update_self] at found
      rcases Option.some.inj found with rfl
      exact absurd processing ended
    · rw [Function.update_of_ne same] at found
      exact fits.newest (claims ▸ newest) row found processing

theorem MlflowStore.Locked.handled {store after : MlflowStore} (locked : store.Locked)
    (handles : store.Handles after) : after.Locked := by
  intro id next nextFound
  cases found : store.events id with
  | none => nomatch nextFound.symm.trans (handles.absent id found)
  | some row =>
      rcases handles.kept id row found with ⟨same, sameFound, handled, -⟩
      rcases Option.some.inj (nextFound.symm.trans sameFound) with rfl
      exact handled.locked (locked id row found)

theorem MlflowStore.Locked.replaced {store after : MlflowStore} (locked : store.Locked)
    {id : EventId} {next : MlflowSyncEvent} (ended : next.status ≠ .processing)
    (events : after.events = Function.update store.events id (some next)) : after.Locked := by
  intro other row found
  rw [events] at found
  by_cases same : other = id
  · rw [same, Function.update_self] at found
    rcases Option.some.inj found with rfl
    exact fun processing => absurd processing ended
  · rw [Function.update_of_ne same] at found
    exact locked other row found

theorem claim_nextWrite (claim : ProjectionClaim) (run : Nat) (remaining : List ProjectionWrite) :
    (nextWrite claim run remaining).claim? = some claim := by
  cases remaining <;> rfl

theorem claim_located {store : MlflowStore} {claim : ProjectionClaim} {job : JobId} {pick : Nat}
    {missing : ProjectorPhase} (own : missing.claim? = some claim) :
    (located store claim job pick missing).claim? = some claim := by
  unfold located
  split
  · exact claim_nextWrite claim _ _
  · exact own

/-- A projection keeps its claim. -/
theorem claim_advanceProjection (store : MlflowStore) (claim : ProjectionClaim)
    (choice : ProjectorChoice) (stage : ProjectionStage) :
    (advanceProjection store claim choice stage).1.claim? = some claim := by
  cases stage with
  | locating =>
      simp only [advanceProjection]
      split
      · rfl
      · rfl
      · exact claim_located rfl
  | creating =>
      simp only [advanceProjection]
      split
      · rfl
      · split
        · exact claim_nextWrite claim _ _
        · rfl
  | relocating code =>
      simp only [advanceProjection]
      split
      · rfl
      · rfl
      · exact claim_located rfl
  | checking run remaining =>
      simp only [advanceProjection]
      split
      · rfl
      · rfl
      · simp only
        split
        · exact claim_nextWrite claim _ _
        · rfl
  | writing run write remaining =>
      cases write with
      | logBatch marker =>
          simp only [advanceProjection]
          split
          · exact claim_nextWrite claim _ _
          · rfl
      | terminal marker status endTimeMs =>
          simp only [advanceProjection]
          split
          · rfl
          · split <;> rfl
  | tagging run marker remaining =>
      simp only [advanceProjection]
      split
      · exact claim_nextWrite claim _ _
      · rfl

/-- What a projector is at work on after a move it was at work on before, or has claimed. -/
theorem claim_of_advance {store : MlflowStore} {choice : ProjectorChoice}
    {phase next : ProjectorPhase} {claim : ProjectionClaim}
    (advanced : (advanceProjector settings choice phase store).1 = some next)
    (own : next.claim? = some claim) :
    phase.claim? = some claim ∨
      claim.Fits (advanceProjector settings choice phase store).2 := by
  cases phase with
  | selecting eventKey =>
      cases advanced
      nomatch own
  | claiming now recovered candidate =>
      simp only [advanceProjector] at advanced ⊢
      split at advanced
      · nomatch advanced
      · split at advanced
        · nomatch advanced
        · next id claimed after claimedBy =>
            rcases Option.some.inj advanced with rfl
            rcases Option.some.inj own with rfl
            simp only
            rcases MlflowStore.claimEvent_eq_some claimedBy with ⟨row, found, pending, rfl, rfl⟩
            refine .inr ⟨?_, ?_⟩
            · simp
            · intro _ other otherFound _
              have same : some (row.claim now) = some other := by
                simpa [MlflowStore.setEvent] using otherFound
              rcases Option.some.inj same with rfl
              rfl
  | projecting working stage =>
      rcases Option.some.inj advanced with rfl
      rw [claim_advanceProjection] at own
      exact .inl own
  | succeeded working => nomatch advanced
  | failed working code => nomatch advanced

theorem mlflowPreserves :
    (mlflowWorkforce settings).Preserves (fun _ _ => True) MlflowStore.Locked
      ProjectorPhase.Fits where
  launched situation launch phase state _ locked launched := by
    cases launch with
    | project eventKey =>
        cases launched
        refine ⟨locked, ?_, fun _ fits => fits⟩
        intro claim own
        nomatch own
  moved situation place choice phase _ found locked fits := by
    have own := fits phase (List.mem_of_getElem? found)
    cases reports : phase.reports? with
    | none =>
        have handles : situation.state.Handles
            (advanceProjector settings choice phase situation.state).2 := advance_handles reports
        refine ⟨locked.handled handles, ?_, ?_⟩
        · intro next advanced claim claims
          rcases claim_of_advance advanced claims with before | fresh
          · exact (own claim before).handled handles
          · exact fresh
        · exact fun other member claim claims => (fits other member claim claims).handled handles
    | some claim =>
        rcases advance_reports settings choice reports with
          ⟨ends, ⟨-, same⟩ | ⟨row, next, rowFound, -, reported, changed⟩⟩
        · refine ⟨?_, ?_, ?_⟩
          · exact same.symm ▸ locked
          · exact fun next advanced => nomatch advanced.symm.trans ends
          · exact fun other member => same.symm ▸ fits other member
        · have events := congrArg MlflowStore.events changed
          have claims := congrArg MlflowStore.claims changed
          refine ⟨locked.replaced reported.ended events, ?_, ?_⟩
          · exact fun next advanced => nomatch advanced.symm.trans ends
          · exact fun other member claim own =>
              (fits other member claim own).replaced reported.ended events claims
  disturbed situation disturbance state _ locked disturbed := by
    cases disturbance with
    | tick elapsed =>
        cases disturbed
        exact ⟨locked, fun _ fits claim own => ⟨(fits claim own).drawn, (fits claim own).newest⟩⟩
    | enqueue id eventKey payload =>
        simp only [mlflowWorkforce, disturbMlflow] at disturbed
        split at disturbed
        · nomatch disturbed
        · cases disturbed
          have unprocessed : (newSyncEvent eventKey payload situation.state.clock).status ≠
              .processing := nofun
          exact ⟨locked.replaced unprocessed rfl,
            fun _ fits claim own => (fits claim own).replaced unprocessed rfl rfl⟩

def MlflowSituation.Sound (situation : MlflowSituation) : Prop :=
  situation.state.Locked ∧ ∀ phase ∈ situation.phases, phase.Fits situation.state

theorem MlflowSituation.Sound.step {situation : MlflowSituation} (sound : situation.Sound)
    (event : MlflowEvent) :
    MlflowSituation.Sound ((mlflowWorkforce settings).step situation event) :=
  mlflowPreserves.step trivial sound

theorem sound_empty : MlflowSituation.Sound ⟨.empty, []⟩ :=
  ⟨fun _ _ found => (nomatch found), fun _ member => nomatch member⟩

theorem mlflowRun_sound (events : List MlflowEvent) : (mlflowRun settings events).Sound :=
  run_preserves MlflowSituation.Sound (fun _ event sound => sound.step event) sound_empty events

/-! ## Projections that have succeeded -/

variable (settings) in
/-- Some step of the run is the last call of a projection of the event, and works. -/
def Projected (events : List MlflowEvent) (id : EventId) : Prop :=
  ∃ front place choice back claim stage, events = front ++ .proceed place choice :: back ∧
    (mlflowRun settings front).phases[place]? = some (.projecting claim stage) ∧
    claim.event.id = id ∧
    (advanceProjection (mlflowRun settings front).state claim choice stage).1 = .succeeded claim

theorem Projected.append {events : List MlflowEvent} {id : EventId}
    (projected : Projected settings events id) (event : MlflowEvent) :
    Projected settings (events ++ [event]) id := by
  rcases projected with ⟨front, place, choice, back, claim, stage, rfl, projecting⟩
  exact ⟨front, place, choice, back ++ [event], claim, stage, by simp, projecting⟩

/-- Only a projection that has worked is reported as a success, and makes its event synced. -/
structure SyncRecorded (settings : MlflowSettings) (events : List MlflowEvent) : Prop where
  succeeded : ∀ claim, .succeeded claim ∈ (mlflowRun settings events).phases →
    Projected settings events claim.event.id
  synced : ∀ id row, (mlflowRun settings events).state.events id = some row →
    row.status = .synced → Projected settings events id

theorem mlflowRun_snoc (events : List MlflowEvent) (event : MlflowEvent) :
    mlflowRun settings (events ++ [event]) =
      (mlflowWorkforce settings).step (mlflowRun settings events) event :=
  run_append ..

theorem succeeded_of_advance {store : MlflowStore} {choice : ProjectorChoice}
    {phase : ProjectorPhase} {claim : ProjectionClaim}
    (advanced : (advanceProjector settings choice phase store).1 = some (.succeeded claim)) :
    ∃ stage, phase = .projecting claim stage ∧
      (advanceProjection store claim choice stage).1 = .succeeded claim := by
  cases phase with
  | selecting eventKey => nomatch advanced
  | claiming now recovered candidate =>
      simp only [advanceProjector] at advanced
      split at advanced
      · nomatch advanced
      · split at advanced <;> nomatch advanced
  | projecting working stage =>
      have succeeds : (advanceProjection store working choice stage).1 = .succeeded claim :=
        Option.some.inj advanced
      have same := claim_advanceProjection store working choice stage
      rw [succeeds] at same
      rcases Option.some.inj same with rfl
      exact ⟨stage, rfl, succeeds⟩
  | succeeded working => nomatch advanced
  | failed working code => nomatch advanced

theorem MlflowStore.Handles.synced {store after : MlflowStore} (handles : store.Handles after)
    {id : EventId} {next : MlflowSyncEvent} (found : after.events id = some next)
    (synced : next.status = .synced) :
    ∃ row, store.events id = some row ∧ row.status = .synced := by
  cases before : store.events id with
  | none => nomatch found.symm.trans (handles.absent id before)
  | some row =>
      rcases handles.kept id row before with ⟨same, sameFound, handled, -⟩
      rcases Option.some.inj (found.symm.trans sameFound) with rfl
      exact ⟨row, rfl, handled.onlySynced synced⟩

theorem SyncRecorded.proceed {events : List MlflowEvent}
    (recorded : SyncRecorded settings events) {place : Nat} {choice : ProjectorChoice}
    {phase : ProjectorPhase} (found : (mlflowRun settings events).phases[place]? = some phase) :
    SyncRecorded settings (events ++ [.proceed place choice]) := by
  have moved : mlflowRun settings (events ++ [.proceed place choice]) =
      (mlflowWorkforce settings).move (mlflowRun settings events) place choice phase := by
    rw [mlflowRun_snoc, Workforce.step_proceed found]
  refine ⟨?_, ?_⟩
  · intro claim member
    rw [moved] at member
    rcases Workforce.mem_phases_move member with earlier | next
    · exact (recorded.succeeded claim earlier).append _
    · rcases succeeded_of_advance next with ⟨stage, rfl, succeeds⟩
      exact ⟨events, place, choice, [], claim, stage, rfl, found, rfl, succeeds⟩
  · intro id row rowFound synced
    rw [moved, Workforce.state_move] at rowFound
    cases reports : phase.reports? with
    | none =>
        have handles : (mlflowRun settings events).state.Handles
            (advanceProjector settings choice phase (mlflowRun settings events).state).2 :=
          advance_handles reports
        rcases handles.synced rowFound synced with ⟨before, beforeFound, wasSynced⟩
        exact (recorded.synced id before beforeFound wasSynced).append _
    | some claim =>
        have kept (rowFound : (mlflowRun settings events).state.events id = some row) :
            Projected settings (events ++ [.proceed place choice]) id :=
          (recorded.synced id row rowFound synced).append _
        rcases (advance_reports settings choice reports).2 with
          ⟨-, same⟩ | ⟨before, next, beforeFound, -, reported, changed⟩
        · exact kept ((congrFun (congrArg MlflowStore.events same) id).symm.trans rowFound)
        · have events := congrFun (congrArg MlflowStore.events changed) id
          have updated := events.symm.trans rowFound
          by_cases same : id = claim.event.id
          · rcases same with rfl
            have becomes : next = row := by
              simpa [MlflowStore.setEvent] using updated
            rcases becomes with rfl
            have member := List.mem_of_getElem? found
            rw [reported.synced synced] at member
            exact (recorded.succeeded claim member).append _
          · apply kept
            simpa [MlflowStore.setEvent, Function.update_of_ne same] using updated

theorem syncRecorded (events : List MlflowEvent) : SyncRecorded settings events := by
  induction events using List.reverseRecOn with
  | nil => exact ⟨fun _ member => (by cases member), fun _ _ found => by cases found⟩
  | append_singleton events event recorded =>
      have idle (same : mlflowRun settings (events ++ [event]) = mlflowRun settings events) :
          SyncRecorded settings (events ++ [event]) :=
        ⟨fun claim member => (recorded.succeeded claim (same ▸ member)).append event,
          fun id row found synced => (recorded.synced id row (same ▸ found) synced).append event⟩
      cases event with
      | launch launch =>
          cases launch with
          | project eventKey =>
              refine ⟨?_, ?_⟩
              · intro claim member
                rw [mlflowRun_snoc] at member
                rcases List.mem_append.mp member with earlier | last
                · exact (recorded.succeeded claim earlier).append _
                · cases List.mem_singleton.mp last
              · intro id row found synced
                rw [mlflowRun_snoc] at found
                exact (recorded.synced id row found synced).append _
      | proceed place choice =>
          cases found : (mlflowRun settings events).phases[place]? with
          | none =>
              apply idle
              rw [mlflowRun_snoc]
              simp only [Workforce.step, found]
          | some phase => exact recorded.proceed found
      | stop place =>
          refine ⟨?_, ?_⟩
          · intro claim member
            rw [mlflowRun_snoc] at member
            exact (recorded.succeeded claim (List.mem_of_mem_eraseIdx member)).append _
          · intro id row found synced
            rw [mlflowRun_snoc] at found
            exact (recorded.synced id row found synced).append _
      | disturb disturbance =>
          cases disturbed : disturbMlflow disturbance (mlflowRun settings events).state with
          | none =>
              apply idle
              rw [mlflowRun_snoc]
              simp only [Workforce.step, mlflowWorkforce, disturbed]
          | some state =>
              have reached : mlflowRun settings (events ++ [.disturb disturbance]) =
                  { mlflowRun settings events with state } := by
                rw [mlflowRun_snoc]
                simp only [Workforce.step, mlflowWorkforce, disturbed]
              refine ⟨fun claim member =>
                (recorded.succeeded claim (by rw [reached] at member; exact member)).append _, ?_⟩
              intro id row found synced
              rw [reached] at found
              cases disturbance with
              | tick elapsed =>
                  cases disturbed
                  exact (recorded.synced id row found synced).append _
              | enqueue newId eventKey payload =>
                  simp only [disturbMlflow] at disturbed
                  split at disturbed
                  · cases disturbed
                  · cases disturbed
                    by_cases same : id = newId
                    · rcases same with rfl
                      have added : newSyncEvent eventKey payload
                          (mlflowRun settings events).state.clock = row := by
                        simpa [MlflowStore.setEvent] using found
                      rcases added with rfl
                      cases synced
                    · apply (recorded.synced id row _ synced).append
                      simpa [MlflowStore.setEvent, Function.update_of_ne same] using found

/-! ## Fences -/

variable (settings) in
/-- What the step must do: attempts are counted upwards, synced rows stay as they are, and the
report of a projector whose claim is not the newest leaves a row alone that is in process. -/
structure ProjectionFenced (situation : MlflowSituation) (event : MlflowEvent) : Prop where
  counts : ∀ id row, situation.state.events id = some row →
    ∃ next, ((mlflowWorkforce settings).step situation event).state.events id = some next ∧
      row.attemptCount ≤ next.attemptCount ∧ (row.status = .synced → next = row)
  overtaken : ∀ place choice phase claim row, event = .proceed place choice →
    situation.phases[place]? = some phase → phase.reports? = some claim →
    situation.state.events claim.event.id = some row → row.status = .processing →
    claim.number ≠ situation.state.claims claim.event.id →
    ((mlflowWorkforce settings).step situation event).state.events claim.event.id = some row

/-- When a projector reports whose event has been claimed again since, that later claim has
come to its end. -/
def ReportsInTime (situation : MlflowSituation) : MlflowEvent → Prop
  | .proceed place _ =>
      ∀ claim ∈ situation.phases[place]?.bind ProjectorPhase.reports?,
        claim.number = situation.state.claims claim.event.id ∨
          ∀ row ∈ situation.state.events claim.event.id, row.status ≠ .processing
  | _ => True

instance : (situation : MlflowSituation) → (event : MlflowEvent) →
    Decidable (ReportsInTime situation event)
  | situation, .proceed place _ =>
      inferInstanceAs (Decidable (∀ claim ∈ situation.phases[place]?.bind
        ProjectorPhase.reports?, _))
  | _, .launch _ => inferInstanceAs (Decidable True)
  | _, .stop _ => inferInstanceAs (Decidable True)
  | _, .disturb _ => inferInstanceAs (Decidable True)

theorem MlflowStore.Handles.counts {store after : MlflowStore} (handles : store.Handles after)
    {id : EventId} {row : MlflowSyncEvent} (found : store.events id = some row) :
    ∃ next, after.events id = some next ∧ row.attemptCount ≤ next.attemptCount ∧
      (row.status = .synced → next = row) := by
  rcases handles.kept id row found with ⟨next, nextFound, handled, -⟩
  exact ⟨next, nextFound, handled.count.ge, handled.synced⟩

/-- A disturbance keeps every row. -/
theorem disturbMlflow_keeps {disturbance : MlflowDisturbance} {store after : MlflowStore}
    (disturbed : disturbMlflow disturbance store = some after) {id : EventId}
    {row : MlflowSyncEvent} (found : store.events id = some row) : after.events id = some row := by
  cases disturbance with
  | tick elapsed =>
      cases disturbed
      exact found
  | enqueue newId eventKey payload =>
      simp only [disturbMlflow] at disturbed
      split at disturbed
      · nomatch disturbed
      · next fresh =>
          cases disturbed
          have different : id ≠ newId := by
            rintro rfl
            exact fresh (.inl (found ▸ rfl))
          exact (Function.update_of_ne different ..).trans found

/-- A step that is no report keeps the fence. -/
theorem fenced_of_silent {situation : MlflowSituation} {event : MlflowEvent}
    (silent : ∀ place choice phase, event = .proceed place choice →
      situation.phases[place]? = some phase → phase.reports? = none) :
    ProjectionFenced settings situation event where
  counts id row found := by
    have same : ∃ next, some row = some next ∧ row.attemptCount ≤ next.attemptCount ∧
        (row.status = .synced → next = row) := ⟨row, rfl, le_refl _, fun _ => rfl⟩
    cases event with
    | launch launch =>
        cases launch
        exact found ▸ same
    | proceed place choice =>
        cases phaseFound : situation.phases[place]? with
        | none =>
            simp only [Workforce.step, phaseFound]
            exact found ▸ same
        | some phase =>
            rw [Workforce.step_proceed phaseFound, Workforce.state_move]
            exact (advance_handles (silent place choice phase rfl phaseFound)).counts found
    | stop place => exact found ▸ same
    | disturb disturbance =>
        simp only [Workforce.step]
        split
        · exact found ▸ same
        · next state disturbed => exact disturbMlflow_keeps disturbed found ▸ same
  overtaken place choice phase claim row proceeds found reports := by
    cases (silent place choice phase proceeds found).symm.trans reports

theorem fenced_iff {situation : MlflowSituation} (sound : situation.Sound) (event : MlflowEvent) :
    ProjectionFenced settings situation event ↔ ReportsInTime situation event := by
  by_cases silent : ∀ place choice phase, event = .proceed place choice →
      situation.phases[place]? = some phase → phase.reports? = none
  · refine iff_of_true (fenced_of_silent silent) ?_
    cases event with
    | proceed place choice =>
        intro claim reports
        rcases Option.bind_eq_some_iff.mp reports with ⟨phase, found, reports⟩
        nomatch (silent place choice phase rfl found).symm.trans reports
    | launch launch => trivial
    | stop place => trivial
    | disturb disturbance => trivial
  · push Not at silent
    rcases silent with ⟨place, choice, phase, rfl, found, reporting⟩
    rcases Option.ne_none_iff_exists'.mp reporting with ⟨claim, reports⟩
    have stepped : ((mlflowWorkforce settings).step situation (.proceed place choice)).state =
        (advanceProjector settings choice phase situation.state).2 := by
      rw [Workforce.step_proceed found, Workforce.state_move]
      rfl
    have named : situation.phases[place]?.bind ProjectorPhase.reports? = some claim := by
      rw [found]
      exact reports
    rcases (@advance_reports settings situation.state choice phase claim reports).2 with
      ⟨idle, same⟩ | ⟨row, next, rowFound, processing, reported, changed⟩
    · refine iff_of_true ⟨?_, ?_⟩ ?_
      · intro id row rowFound
        rw [stepped, same]
        exact ⟨row, rowFound, le_refl _, fun _ => rfl⟩
      · intro place' choice' phase' claim' row proceeds found' reports' rowFound processing _
        cases proceeds
        rcases Option.some.inj (found.symm.trans found') with rfl
        rcases Option.some.inj (reports.symm.trans reports') with rfl
        exact absurd processing (idle row rowFound)
      · intro claim' reports'
        rcases Option.some.inj (named.symm.trans reports') with rfl
        exact .inr fun row rowFound => idle row rowFound
    · have events := congrArg MlflowStore.events changed
      constructor
      · intro fenced claim' reports'
        rcases Option.some.inj (named.symm.trans reports') with rfl
        by_contra late
        rw [not_or] at late
        have kept := fenced.overtaken place choice phase claim row rfl found reports rowFound
          processing late.1
        rw [stepped, events] at kept
        have becomes : next = row := by simpa [MlflowStore.setEvent] using kept
        exact reported.ended (becomes ▸ processing)
      · intro inTime
        have newest : claim.number = situation.state.claims claim.event.id := by
          rcases inTime claim named with newest | ended
          · exact newest
          · exact absurd processing (ended row rowFound)
        refine ⟨?_, ?_⟩
        · intro id other otherFound
          rw [stepped, events]
          by_cases same : id = claim.event.id
          · rcases same with rfl
            rcases Option.some.inj (rowFound.symm.trans otherFound) with rfl
            have fits : claim.Fits situation.state :=
              sound.2 phase (List.mem_of_getElem? found) claim (phase.claim_of_reports reports)
            have count := fits.newest newest row rowFound processing
            refine ⟨next, Function.update_self .., ?_, ?_⟩
            · have counted := reported.count
              omega
            · exact fun synced => nomatch processing.symm.trans synced
          · exact ⟨other, (Function.update_of_ne same ..).trans otherFound, le_refl _, fun _ => rfl⟩
        · intro place' choice' phase' claim' row' proceeds found' reports' _ _ overtaken
          cases proceeds
          rcases Option.some.inj (found.symm.trans found') with rfl
          rcases Option.some.inj (reports.symm.trans reports') with rfl
          exact absurd newest overtaken

theorem along_fenced_iff (events : List MlflowEvent) :
    Along (mlflowWorkforce settings).step (ProjectionFenced settings) ⟨.empty, []⟩ events ↔
      Along (mlflowWorkforce settings).step ReportsInTime ⟨.empty, []⟩ events :=
  along_congr MlflowSituation.Sound (fun _ event sound => sound.step event)
    (fun _ event sound => fenced_iff sound event) sound_empty events

variable (settings) in
/-- The claims are fenced in every step of the run, and in every state no event is lost and
those that are synced have been projected. -/
structure OutboxFenced (events : List MlflowEvent) : Prop where
  rows : ∀ front back, events = front ++ back → ∀ id row,
    (mlflowRun settings front).state.events id = some row →
      row.Locked ∧ (row.status = .synced → Projected settings front id)
  steps : Along (mlflowWorkforce settings).step (ProjectionFenced settings) ⟨.empty, []⟩ events

/-- The outbox is fenced exactly in those runs in which nobody reports while a later claim of
the same event is in process. -/
theorem outbox_fenced_iff (settings : MlflowSettings) (events : List MlflowEvent) :
    OutboxFenced settings events ↔
      Along (mlflowWorkforce settings).step ReportsInTime ⟨.empty, []⟩ events := by
  rw [← along_fenced_iff]
  constructor
  · exact OutboxFenced.steps
  · intro steps
    refine ⟨fun front _ _ id row found => ⟨?_, ?_⟩, steps⟩
    · exact (mlflowRun_sound front).1 id row found
    · exact (syncRecorded front).synced id row found

/-! ## A report that comes too late -/

/-- A projection is slow, its claim is recovered and claimed again, and the second projector
fails. A third one is at work when the first one fails too. -/
def overtakenProjector : List MlflowEvent :=
  [.disturb (.enqueue 0 "terminal:1:completed" (.jobTerminal 1 .completed 0)),
    .launch (.project none), .proceed 0 (.works 0), .proceed 0 (.works 0),
    .disturb (.tick 120000000),
    .launch (.project none), .proceed 1 (.works 0), .proceed 1 (.works 0),
    .proceed 1 (.raises "request_failed" false), .proceed 1 (.works 0),
    .disturb (.tick 2000000),
    .launch (.project none), .proceed 1 (.works 0), .proceed 1 (.works 0),
    .proceed 0 (.raises "request_failed" false), .proceed 0 (.works 0)]

theorem overtakenProjector_unfenced : ¬OutboxFenced ⟨120, 300⟩ overtakenProjector := by
  intro fenced
  have inTime := (along_fenced_iff overtakenProjector).mp fenced.steps
  revert inTime
  decide +kernel

end RvcOrchestrator.Manager

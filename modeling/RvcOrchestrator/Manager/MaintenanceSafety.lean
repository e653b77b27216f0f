import RvcOrchestrator.Manager.MaintenanceOwnership

/-! # Safety of maintenance runs

Attempts are counted exactly, an execution that has lost its run has no more effect, and
every result accounts for the objects it has examined. A run that has ended stays ended as
long as no request without a lock writes to it.
-/

namespace RvcOrchestrator.Manager

open RvcOrchestrator.Foundation RvcOrchestrator.Contracts

variable {settings : MaintenanceSettings}

/-! ## Launches and disturbances -/

theorem launchMaintenance_eq_some {launch : MaintenanceLaunch} {store after : MaintenanceStore}
    {phase : MaintenancePhase}
    (launched : launchMaintenance settings launch store = some (phase, after)) :
    (∃ identity, launch = .request identity ∧ phase = .requested identity ∧ after = store) ∨
      ∃ taskName id row next, launch = .execute taskName id ∧ store.runs id = some row ∧
        MaintenanceTaskRun.Started settings store.clock row next ∧
        phase = .executing ⟨id, next.attemptCount⟩ (.new next.dryRun) .selecting ∧
        after = store.setRun id next := by
  cases launch with
  | request identity =>
      cases launched
      exact .inl ⟨identity, rfl, rfl, rfl⟩
  | execute taskName id =>
      simp only [launchMaintenance] at launched
      split at launched
      · nomatch launched
      · next row found =>
          split at launched
          · next next started =>
              split at launched
              · cases launched
                exact .inr ⟨taskName, id, row, next, rfl, found,
                  MaintenanceTaskRun.start_started started, rfl, rfl⟩
              · nomatch launched
          · nomatch launched

theorem disturbMaintenance_leads {disturbance : MaintenanceDisturbance}
    {store after : MaintenanceStore}
    (disturbed : disturbMaintenance settings disturbance store = some after) :
    MaintenanceStore.Leads MaintenanceTaskRun.Tame store after := by
  cases disturbance with
  | tick elapsed =>
      cases disturbed
      exact .ofSame MaintenanceTaskRun.Tame.refl rfl
  | accept id =>
      simp only [disturbMaintenance] at disturbed
      split at disturbed
      · cases disturbed
        exact .ofSame MaintenanceTaskRun.Tame.refl rfl
      · nomatch disturbed
  | settle taskName id =>
      simp only [disturbMaintenance] at disturbed
      split at disturbed
      · nomatch disturbed
      · next row found =>
          split at disturbed
          · next next settled =>
              split at disturbed
              · cases disturbed
                exact MaintenanceStore.leads_setRun MaintenanceTaskRun.Tame.refl found
                  (MaintenanceTaskRun.start_settled settled)
              · nomatch disturbed
          · nomatch disturbed
  | reconcile id elapsed answer =>
      simp only [disturbMaintenance] at disturbed
      split at disturbed
      · nomatch disturbed
      · next row found =>
          split at disturbed
          · next candidate =>
              cases disturbed
              exact MaintenanceStore.leads_accept_setRun MaintenanceTaskRun.Tame.refl found
                answer.accepted ⟨(row.follows_reconcile _ answer).1,
                  fun ended => absurd ended candidate.not_ended,
                  (row.follows_reconcile _ answer).2⟩
          · nomatch disturbed

/-! ## Every reachable situation -/

namespace MaintenanceStore

variable {store after : MaintenanceStore}

structure Sound (store : MaintenanceStore) : Prop where
  bounded : ∀ id row, store.runs id = some row → row.attemptCount ≤ row.maxAttempts
  results : ∀ id row, store.runs id = some row → ∀ result ∈ row.result, result.Counted

theorem sound_empty : empty.Sound where
  bounded id _ found := nomatch (runs_empty id).symm.trans found
  results id _ found := nomatch (runs_empty id).symm.trans found

def KeepsCounted (row next : MaintenanceTaskRun) : Prop :=
  (∀ result ∈ row.result, result.Counted) → ∀ result ∈ next.result, result.Counted

theorem keepsCounted_of_eq {row next : MaintenanceTaskRun} (same : next.result = row.result) :
    KeepsCounted row next := by
  intro counted
  rw [same]
  exact counted

theorem Sound.leads (sound : store.Sound) (leads : Leads KeepsCounted store after) :
    after.Sound where
  bounded id next nextFound := by
    cases found : store.runs id with
    | none =>
        rw [(leads.added id next found nextFound).1]
        exact Nat.zero_le _
    | some row =>
        rcases leads.kept id row found with ⟨same, sameFound, follows, -⟩
        rcases Option.some.inj (nextFound.symm.trans sameFound) with rfl
        rw [follows.attempts, follows.bound]
        exact sound.bounded id row found
  results id next nextFound := by
    cases found : store.runs id with
    | none =>
        rw [(leads.added id next found nextFound).2]
        exact nofun
    | some row =>
        rcases leads.kept id row found with ⟨same, sameFound, -, counted⟩
        rcases Option.some.inj (nextFound.symm.trans sameFound) with rfl
        exact counted (sound.results id row found)

theorem Sound.started (sound : store.Sound) {id : MaintenanceRunId}
    {row next : MaintenanceTaskRun} (found : store.runs id = some row)
    (started : MaintenanceTaskRun.Started settings store.clock row next) :
    (store.setRun id next).Sound := by
  have reads (Holds : MaintenanceTaskRun → Prop) (here : Holds next)
      (there : ∀ other otherRow, store.runs other = some otherRow → Holds otherRow)
      (other : MaintenanceRunId) (otherRow : MaintenanceTaskRun)
      (otherFound : (store.setRun id next).runs other = some otherRow) : Holds otherRow := by
    have updated := (congrFun (runs_setRun found next) other).symm.trans otherFound
    by_cases same : other = id
    · rcases same with rfl
      rw [Function.update_self] at updated
      rcases Option.some.inj updated with rfl
      exact here
    · rw [Function.update_of_ne same] at updated
      exact there other otherRow updated
  have room := started.room
  have attempts := started.attempts
  have bound := started.bound
  constructor
  · exact reads (fun row => row.attemptCount ≤ row.maxAttempts) (by omega) sound.bounded
  · apply reads (fun row => ∀ result ∈ row.result, result.Counted) _ sound.results
    rw [started.result]
    exact sound.results id row found

end MaintenanceStore

def MaintenancePhase.Fits : MaintenancePhase → Prop
  | .executing _ work stage => work.Counts stage
  | _ => True

theorem fits_continueEnqueue (id : MaintenanceRunId) (loaded : MaintenanceTaskRun) :
    (continueEnqueue id loaded).Fits := by
  unfold continueEnqueue
  split <;> trivial

theorem advanceMaintenance_fits (settings : MaintenanceSettings) (store : MaintenanceStore)
    (choice : MaintenanceChoice) {phase next : MaintenancePhase} (fits : phase.Fits)
    (becomes : (advanceMaintenance settings choice phase store).1 = some next) : next.Fits := by
  cases phase with
  | requested identity =>
      simp only [advanceMaintenance] at becomes
      split at becomes
      · rcases Option.some.inj becomes with rfl
        trivial
      · split at becomes <;> cases becomes
  | creating identity =>
      simp only [advanceMaintenance] at becomes
      split at becomes
      · rcases Option.some.inj becomes with rfl
        trivial
      · rcases Option.some.inj becomes with rfl
        exact fits_continueEnqueue ..
  | reloading identity =>
      simp only [advanceMaintenance] at becomes
      split at becomes
      · cases becomes
      · split at becomes
        · cases becomes
        · split at becomes
          · cases becomes
          · rcases Option.some.inj becomes with rfl
            exact fits_continueEnqueue ..
  | enqueueing id loaded =>
      rcases Option.some.inj becomes with rfl
      trivial
  | answered id loaded outcome => cases becomes
  | executing execution work stage =>
      have counts := CleanupWork.counts_move fits choice
      simp only [advanceMaintenance] at becomes
      split at becomes
      · next moved =>
          rw [moved] at counts
          rcases Option.some.inj becomes with rfl
          exact counts
      · next moved =>
          rw [moved] at counts
          split at becomes
          · cases becomes
          · rcases Option.some.inj becomes with rfl
            exact counts
      · cases becomes

theorem maintenancePreserves :
    Workforce.Preserves (maintenanceWorkforce settings) (fun _ _ => True)
      MaintenanceStore.Sound (fun _ phase => phase.Fits) where
  launched situation launch phase state _ sound launched := by
    rcases launchMaintenance_eq_some launched with
      ⟨identity, -, rfl, rfl⟩ | ⟨taskName, id, row, next, -, found, started, rfl, rfl⟩
    · exact ⟨sound, trivial, fun _ fits => fits⟩
    · exact ⟨sound.started found started, fun _ => rfl, fun _ fits => fits⟩
  moved situation place choice phase _ found sound fits := by
    have own := fits phase (List.mem_of_getElem? found)
    refine ⟨?_, fun next => advanceMaintenance_fits settings situation.state choice own, fits⟩
    apply sound.leads
    apply advanceMaintenance_leads fun row next tame =>
      MaintenanceStore.keepsCounted_of_eq tame.result
    · intro id loaded outcome _ row _
      exact MaintenanceStore.keepsCounted_of_eq (row.follows_flush _ loaded outcome).2
    · rintro execution work stage done rfl finishes row - - result recorded
      have counts := CleanupWork.counts_move own choice
      rw [finishes] at counts
      rw [(MaintenanceTaskRun.follows_finish _ _).2] at recorded
      rcases Option.some.inj recorded with rfl
      exact counts
  disturbed situation disturbance state _ sound disturbed :=
    ⟨sound.leads ((disturbMaintenance_leads disturbed).mono fun row next tame =>
      MaintenanceStore.keepsCounted_of_eq tame.result), fun _ fits => fits⟩

def MaintenanceSituation.Sound (situation : MaintenanceSituation) : Prop :=
  situation.state.Sound ∧ ∀ phase ∈ situation.phases, phase.Fits

/-! ### Names of executions -/

def MaintenancePhase.execution? : MaintenancePhase → Option MaintenanceExecution
  | .executing execution _ _ => some execution
  | _ => none

def MaintenanceStore.Drawn (store : MaintenanceStore) (execution : MaintenanceExecution) : Prop :=
  ∃ row, store.runs execution.run = some row ∧ execution.attempt ≤ row.attemptCount

theorem MaintenanceStore.Leads.drawn {store after : MaintenanceStore}
    {Keeps : MaintenanceTaskRun → MaintenanceTaskRun → Prop}
    (leads : MaintenanceStore.Leads Keeps store after) (execution : MaintenanceExecution)
    (drawn : store.Drawn execution) : after.Drawn execution := by
  rcases drawn with ⟨row, found, reached⟩
  rcases leads.kept execution.run row found with ⟨next, nextFound, follows, -⟩
  exact ⟨next, nextFound, reached.trans follows.attempts.ge⟩

theorem MaintenanceStore.drawn_started {store : MaintenanceStore} {id : MaintenanceRunId}
    {row next : MaintenanceTaskRun} (found : store.runs id = some row)
    (started : MaintenanceTaskRun.Started settings store.clock row next) :
    (∀ execution, store.Drawn execution → (store.setRun id next).Drawn execution) ∧
      ¬store.Drawn ⟨id, next.attemptCount⟩ ∧
      (store.setRun id next).Drawn ⟨id, next.attemptCount⟩ := by
  have attempts := started.attempts
  have updated := MaintenanceStore.runs_setRun found next
  have here : (store.setRun id next).runs id = some next := by
    rw [updated, Function.update_self]
  refine ⟨?_, ?_, next, here, le_refl _⟩
  · rintro execution ⟨other, otherFound, reached⟩
    by_cases same : execution.run = id
    · rw [same, found] at otherFound
      rcases Option.some.inj otherFound with rfl
      exact ⟨next, same ▸ here, by omega⟩
    · refine ⟨other, ?_, reached⟩
      rw [updated, Function.update_of_ne same, otherFound]
  · rintro ⟨other, otherFound, reached⟩
    rcases Option.some.inj (found.symm.trans otherFound) with rfl
    simp only at reached
    omega

theorem execution_continueEnqueue (id : MaintenanceRunId) (loaded : MaintenanceTaskRun) :
    (continueEnqueue id loaded).execution? = none := by
  unfold continueEnqueue
  split <;> rfl

theorem execution_advanceMaintenance (settings : MaintenanceSettings) (store : MaintenanceStore)
    (choice : MaintenanceChoice) {phase next : MaintenancePhase}
    (becomes : (advanceMaintenance settings choice phase store).1 = some next) :
    next.execution? = phase.execution? := by
  cases phase with
  | requested identity =>
      simp only [advanceMaintenance] at becomes
      split at becomes
      · rcases Option.some.inj becomes with rfl
        rfl
      · split at becomes <;> cases becomes
  | creating identity =>
      simp only [advanceMaintenance] at becomes
      split at becomes
      · rcases Option.some.inj becomes with rfl
        rfl
      · rcases Option.some.inj becomes with rfl
        exact execution_continueEnqueue ..
  | reloading identity =>
      simp only [advanceMaintenance] at becomes
      split at becomes
      · cases becomes
      · split at becomes
        · cases becomes
        · split at becomes
          · cases becomes
          · rcases Option.some.inj becomes with rfl
            exact execution_continueEnqueue ..
  | enqueueing id loaded =>
      rcases Option.some.inj becomes with rfl
      rfl
  | answered id loaded outcome => cases becomes
  | executing execution work stage =>
      simp only [advanceMaintenance] at becomes
      split at becomes
      · rcases Option.some.inj becomes with rfl
        rfl
      · split at becomes
        · cases becomes
        · rcases Option.some.inj becomes with rfl
          rfl
      · cases becomes

theorem maintenanceNames :
    Workforce.Names (maintenanceWorkforce settings) MaintenancePhase.execution?
      MaintenanceStore.Drawn where
  launched {launch state phase after} launched := by
    rcases launchMaintenance_eq_some launched with
      ⟨identity, -, rfl, rfl⟩ | ⟨taskName, id, row, next, -, found, started, rfl, rfl⟩
    · exact ⟨fun _ drawn => drawn, fun own called => nomatch called⟩
    · have drawn := MaintenanceStore.drawn_started found started
      refine ⟨drawn.1, fun own called => ?_⟩
      rcases Option.some.inj called with rfl
      exact drawn.2
  moved choice phase state := by
    have leads : MaintenanceStore.Leads (fun _ _ => True) state
        (advanceMaintenance settings choice phase state).2 :=
      advanceMaintenance_leads (fun _ _ _ => trivial) choice phase (fun _ _ _ _ _ _ => trivial)
        fun _ _ _ _ _ _ _ _ => trivial
    exact ⟨leads.drawn, fun next => execution_advanceMaintenance settings state choice⟩
  disturbed disturbed := (disturbMaintenance_leads disturbed).drawn

theorem maintenanceRun_sound (events : List MaintenanceEvent) :
    (maintenanceRun settings events).state.Sound := by
  have sound : (maintenanceRun settings events).Sound := by
    apply run_preserves MaintenanceSituation.Sound
    · intro situation event sound
      exact maintenancePreserves.step trivial sound
    · exact ⟨MaintenanceStore.sound_empty, fun _ member => nomatch member⟩
  exact sound.1

/-! ## Every step -/

structure MaintenanceTaskRun.Succeeds (row : MaintenanceTaskRun) (starts : Bool)
    (next : MaintenanceTaskRun) : Prop where
  absorbing : row.status.Ended → next.status = row.status
  counted : next.attemptCount = row.attemptCount + if starts then 1 else 0
  lost : ∀ attempt ≤ row.attemptCount, ¬row.OwnedBy attempt → ¬next.OwnedBy attempt

variable (settings) in
def startsRun (situation : MaintenanceSituation) (id : MaintenanceRunId) :
    MaintenanceEvent → Bool
  | .launch (.execute taskName other) =>
      other = id ∧ (launchMaintenance settings (.execute taskName other) situation.state).isSome
  | _ => false

variable (settings) in
/-- What a step must do: ended runs stay as they ended, attempts are counted by the starts, a
run at work is started again only when it is stale, and an execution that does not own its
run changes nothing. -/
structure MaintenanceLawful (situation : MaintenanceSituation) (event : MaintenanceEvent) :
    Prop where
  rows : ∀ id row, situation.state.runs id = some row →
    ∃ next, ((maintenanceWorkforce settings).step situation event).state.runs id = some next ∧
      row.Succeeds (startsRun settings situation id event) next
  guarded : ∀ id row, situation.state.runs id = some row → startsRun settings situation id event →
    row.status = .running → row.Stale settings situation.state.clock
  disowned : ∀ place choice execution work stage, event = .proceed place choice →
    situation.phases[place]? = some (.executing execution work stage) →
    ¬situation.state.OwnedBy execution →
    ((maintenanceWorkforce settings).step situation event).state = situation.state

def EnqueueOutcome.status : EnqueueOutcome → MaintenanceStatus
  | exhausted => .failed
  | enqueued => .queued
  | conflict _ => .failed
  | unavailable => .enqueueFailed

/-- A request that holds no lock writes its outcome to a run that has not ended, or it
changes nothing about how the run has ended. -/
def MaintenancePhase.WritesInTime (store : MaintenanceStore) : MaintenancePhase → Prop
  | .answered id loaded outcome =>
      ∀ row ∈ store.runs id, row.status.Ended →
        outcome.status = loaded.status ∨ outcome.status = row.status
  | _ => True

instance (store : MaintenanceStore) :
    (phase : MaintenancePhase) → Decidable (phase.WritesInTime store)
  | .answered id _ _ => inferInstanceAs (Decidable (∀ _ ∈ store.runs id, _))
  | .requested _ => inferInstanceAs (Decidable True)
  | .creating _ => inferInstanceAs (Decidable True)
  | .reloading _ => inferInstanceAs (Decidable True)
  | .enqueueing _ _ => inferInstanceAs (Decidable True)
  | .executing _ _ _ => inferInstanceAs (Decidable True)

def WritesInTime (situation : MaintenanceSituation) : MaintenanceEvent → Prop
  | .proceed place _ =>
      ∀ phase ∈ situation.phases[place]?, phase.WritesInTime situation.state
  | _ => True

instance : (situation : MaintenanceSituation) → (event : MaintenanceEvent) →
    Decidable (WritesInTime situation event)
  | situation, .proceed place _ =>
      inferInstanceAs (Decidable (∀ _ ∈ situation.phases[place]?, _))
  | _, .launch _ => inferInstanceAs (Decidable True)
  | _, .stop _ => inferInstanceAs (Decidable True)
  | _, .disturb _ => inferInstanceAs (Decidable True)

namespace MaintenanceTaskRun

variable {row next : MaintenanceTaskRun}

theorem Follows.succeeds (follows : row.Follows next) (absorbs : row.Absorbs next) :
    row.Succeeds false next where
  absorbing := absorbs
  counted := follows.attempts
  lost _ _ disowned owned :=
    disowned ⟨follows.running owned.1, follows.attempts.symm.trans owned.2⟩

theorem Started.succeeds {now : Time} (started : Started settings now row next) :
    row.Succeeds true next where
  absorbing ended := absurd ended started.active
  counted := started.attempts
  lost _ reached _ owned := by
    have counted := started.attempts.symm.trans owned.2
    omega

theorem absorbs_flush_iff (row : MaintenanceTaskRun) (now : Time) (loaded : MaintenanceTaskRun)
    (outcome : EnqueueOutcome) :
    row.Absorbs (row.flush now loaded (loaded.assign now outcome)) ↔
      (row.status.Ended → outcome.status = loaded.status ∨ outcome.status = row.status) := by
  have assigned : (loaded.assign now outcome).status = outcome.status := by
    cases outcome <;> rfl
  apply imp_congr_right
  intro _
  rw [status_flush, assigned, column]
  split
  · next same => exact iff_of_true rfl (.inl same)
  · next different => exact ⟨.inr, fun either => either.resolve_left different⟩

end MaintenanceTaskRun

theorem MaintenanceStore.Leads.succeeds {store after : MaintenanceStore}
    (leads : MaintenanceStore.Leads MaintenanceTaskRun.Absorbs store after)
    (id : MaintenanceRunId) (row : MaintenanceTaskRun) (found : store.runs id = some row) :
    ∃ next, after.runs id = some next ∧ row.Succeeds false next := by
  rcases leads.kept id row found with ⟨next, nextFound, follows, absorbs⟩
  exact ⟨next, nextFound, follows.succeeds absorbs⟩

/-- What a process that writes in time keeps of the rows. -/
theorem advanceMaintenance_absorbs {store : MaintenanceStore} {phase : MaintenancePhase}
    (inTime : phase.WritesInTime store) (choice : MaintenanceChoice) :
    MaintenanceStore.Leads MaintenanceTaskRun.Absorbs store
      (advanceMaintenance settings choice phase store).2 := by
  apply advanceMaintenance_leads fun row next tame => tame.absorbs
  · rintro id loaded outcome rfl row found
    exact (row.absorbs_flush_iff _ loaded outcome).mpr (inTime row found)
  · intro _ _ _ _ _ _ row running ended
    exact absurd ended (MaintenanceTaskRun.not_ended_of_running running)

/-- A launch counts the attempt that it starts. -/
theorem lawful_launch (situation : MaintenanceSituation) (launch : MaintenanceLaunch) :
    MaintenanceLawful settings situation (.launch launch) := by
  have idle (same : ((maintenanceWorkforce settings).step situation (.launch launch)).state =
        situation.state)
      (none : ∀ id, startsRun settings situation id (.launch launch) = false) :
      MaintenanceLawful settings situation (.launch launch) := by
    refine ⟨?_, ?_, fun _ _ _ _ _ proceeds => by cases proceeds⟩
    · intro id row found
      rw [same, none id]
      exact ⟨row, found, (MaintenanceTaskRun.Follows.refl row).succeeds fun _ => rfl⟩
    · intro id row _ starts
      rw [none id] at starts
      cases starts
  cases launched : launchMaintenance settings launch situation.state with
  | none =>
      apply idle
      · simp only [Workforce.step, maintenanceWorkforce, launched]
      · intro id
        cases launch with
        | request identity => rfl
        | execute taskName other => simp only [startsRun, launched]; simp
  | some reached =>
      rcases reached with ⟨phase, after⟩
      have stepped : ((maintenanceWorkforce settings).step situation (.launch launch)).state =
          after := by
        simp only [Workforce.step, maintenanceWorkforce, launched]
      rcases launchMaintenance_eq_some launched with
        ⟨identity, rfl, -, rfl⟩ | ⟨taskName, id, row, next, rfl, found, started, -, rfl⟩
      · exact idle stepped fun _ => rfl
      · have starts (other : MaintenanceRunId) : startsRun settings situation other
            (.launch (.execute taskName id)) = decide (id = other) := by
          simp only [startsRun, launched]
          simp
        refine ⟨?_, ?_, fun _ _ _ _ _ proceeds => by cases proceeds⟩
        · intro other otherRow otherFound
          rw [stepped, starts, MaintenanceStore.runs_setRun found]
          by_cases same : id = other
          · rcases same with rfl
            rcases Option.some.inj (found.symm.trans otherFound) with rfl
            rw [decide_eq_true rfl, Function.update_self]
            exact ⟨next, rfl, started.succeeds⟩
          · rw [Function.update_of_ne (Ne.symm same), decide_eq_false same]
            exact ⟨otherRow, otherFound,
              (MaintenanceTaskRun.Follows.refl otherRow).succeeds fun _ => rfl⟩
        · intro other otherRow otherFound startsOther
          rw [starts] at startsOther
          rcases of_decide_eq_true startsOther with rfl
          rcases Option.some.inj (found.symm.trans otherFound) with rfl
          exact started.stale

theorem maintenanceLawful_iff (situation : MaintenanceSituation) (event : MaintenanceEvent) :
    MaintenanceLawful settings situation event ↔ WritesInTime situation event := by
  cases event with
  | launch launch => exact iff_of_true (lawful_launch situation launch) trivial
  | stop place =>
      refine iff_of_true ⟨?_, fun _ _ _ starts => (by cases starts),
        fun _ _ _ _ _ proceeds => by cases proceeds⟩ trivial
      intro id row found
      exact ⟨row, found, (MaintenanceTaskRun.Follows.refl row).succeeds fun _ => rfl⟩
  | disturb disturbance =>
      refine iff_of_true ⟨?_, fun _ _ _ starts => (by cases starts),
        fun _ _ _ _ _ proceeds => by cases proceeds⟩ trivial
      intro id row found
      simp only [Workforce.step]
      split
      · exact ⟨row, found, (MaintenanceTaskRun.Follows.refl row).succeeds fun _ => rfl⟩
      · next state disturbed =>
          exact ((disturbMaintenance_leads disturbed).mono fun _ _ tame =>
            tame.absorbs).succeeds id row found
  | proceed place choice =>
      cases found : situation.phases[place]? with
      | none =>
          have same : (maintenanceWorkforce settings).step situation (.proceed place choice) =
              situation := by
            simp only [Workforce.step, found]
          apply iff_of_true
          · refine ⟨?_, fun _ _ _ starts => (by cases starts),
              fun _ _ _ _ _ _ _ _ => congrArg _ same⟩
            intro id row rowFound
            rw [same]
            exact ⟨row, rowFound, (MaintenanceTaskRun.Follows.refl row).succeeds fun _ => rfl⟩
          · intro phase phaseFound
            cases found.symm.trans phaseFound
      | some phase =>
          have stepped :
              ((maintenanceWorkforce settings).step situation (.proceed place choice)).state =
                (advanceMaintenance settings choice phase situation.state).2 := by
            rw [Workforce.step_proceed found, Workforce.state_move]
            rfl
          constructor
          · intro lawful other otherFound
            rcases Option.some.inj (found.symm.trans otherFound) with rfl
            cases phase with
            | answered id loaded outcome =>
                intro row rowFound
                rcases lawful.rows id row rowFound with ⟨next, nextFound, succeeds⟩
                have flushed : (situation.state.amendRun id
                    (·.flush situation.state.clock loaded
                      (loaded.assign situation.state.clock outcome))).runs id =
                    some (row.flush situation.state.clock loaded
                      (loaded.assign situation.state.clock outcome)) := by
                  simp only [MaintenanceStore.amendRun, Option.mem_def.mp rowFound,
                    MaintenanceStore.runs_setRun (Option.mem_def.mp rowFound),
                    Function.update_self]
                rw [stepped] at nextFound
                rcases Option.some.inj (flushed.symm.trans nextFound) with rfl
                exact (row.absorbs_flush_iff _ loaded outcome).mp succeeds.absorbing
            | requested identity => trivial
            | creating identity => trivial
            | reloading identity => trivial
            | enqueueing id loaded => trivial
            | executing execution work stage => trivial
          · intro inTime
            refine ⟨?_, fun _ _ _ starts => (by cases starts), ?_⟩
            · intro id row rowFound
              rw [stepped]
              exact
                (advanceMaintenance_absorbs (inTime phase found) choice).succeeds id row rowFound
            · intro place' choice' execution work stage proceeds found' disowned
              cases proceeds
              rcases Option.some.inj (found.symm.trans found') with rfl
              rw [stepped]
              exact advanceExecution_disowned disowned choice work stage

/-! ## Whole runs -/

/-- No two executions own a run, no run is attempted too often, and every result that is not
of a dry run accounts for what it has examined. -/
structure MaintenanceKept (situation : MaintenanceSituation) : Prop where
  owners : ∀ (first second : Nat) execution other work otherWork stage otherStage,
    situation.phases[first]? = some (.executing execution work stage) →
    situation.phases[second]? = some (.executing other otherWork otherStage) →
    situation.state.OwnedBy execution → situation.state.OwnedBy other →
    execution.run = other.run → first = second
  bounded : ∀ id row, situation.state.runs id = some row → row.attemptCount ≤ row.maxAttempts
  results : ∀ id row, situation.state.runs id = some row → ∀ result ∈ row.result,
    result.dryRun = false → result.examined = result.deleted + result.skipped + result.failed

theorem maintenanceRun_kept (settings : MaintenanceSettings) (events : List MaintenanceEvent) :
    MaintenanceKept (maintenanceRun settings events) where
  owners first second execution other work otherWork stage otherStage found otherFound owned
      otherOwned sameRun := by
    have named : Workforce.Named MaintenancePhase.execution? MaintenanceStore.Drawn
        (maintenanceRun settings events) := maintenanceNames.run MaintenanceStore.empty events
    by_contra different
    have apart := named.apart found
      (List.mem_eraseIdx_iff_getElem?.mpr ⟨second, Ne.symm different, otherFound⟩) rfl
    rcases owned with ⟨row, rowFound, -, attempt⟩
    rcases otherOwned with ⟨otherRow, otherRowFound, -, otherAttempt⟩
    rw [← sameRun] at otherRowFound
    rcases Option.some.inj (rowFound.symm.trans otherRowFound) with rfl
    have same : other = execution := by
      cases execution
      cases other
      simp_all
    exact apart (congrArg some same)
  bounded := (maintenanceRun_sound events).bounded
  results := (maintenanceRun_sound events).results

variable (settings) in
structure MaintenanceSafe (events : List MaintenanceEvent) : Prop where
  states : ∀ front back, events = front ++ back → MaintenanceKept (maintenanceRun settings front)
  steps : Along (maintenanceWorkforce settings).step (MaintenanceLawful settings) ⟨.empty, []⟩
    events

/-- Maintenance runs are safe exactly if no request that holds no lock writes another status
to a run that has ended. -/
theorem maintenance_safe_iff (settings : MaintenanceSettings) (events : List MaintenanceEvent) :
    MaintenanceSafe settings events ↔
      Along (maintenanceWorkforce settings).step WritesInTime ⟨.empty, []⟩ events := by
  rw [← along_congr (fun _ => True) (fun _ _ _ => trivial)
    (fun situation event _ => maintenanceLawful_iff situation event) trivial events]
  exact ⟨MaintenanceSafe.steps, fun steps =>
    ⟨fun front _ _ => maintenanceRun_kept settings front, steps⟩⟩

/-- The queue accepts a job and is reported unavailable. A worker completes the run before
the request has written that. -/
def overwrittenRun : List MaintenanceEvent :=
  [.launch (.request ⟨.datasetStagingCleanup, 0, true, "cleanup-2026"⟩),
    .proceed 0 { }, .proceed 0 { }, .proceed 0 { answer := .unavailable true },
    .launch (.execute .datasetStagingCleanup 0),
    .proceed 1 { }, .proceed 1 { }, .proceed 1 { }, .proceed 1 { }, .proceed 1 { },
    .proceed 0 { }]

theorem overwrittenRun_unsafe : ¬MaintenanceSafe ⟨300, 3, 15000000⟩ overwrittenRun := by
  intro safe
  have inTime := (maintenance_safe_iff _ overwrittenRun).mp safe
  revert inTime
  decide +kernel

end RvcOrchestrator.Manager

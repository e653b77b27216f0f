import RvcOrchestrator.Manager.MaintenanceRuns

/-! # Ownership of maintenance runs

An execution owns its run while the run is at work on its attempt. Attempts are counted by
the starts alone, so that no attempt is ever owned again once it has been lost. A request
that holds no lock may however overwrite what an execution has come to meanwhile.
-/

namespace RvcOrchestrator.Manager

open RvcOrchestrator.Foundation RvcOrchestrator.Contracts

variable {settings : MaintenanceSettings}

/-! ## What is written to a row -/

def StagingCleanupResult.Counted (result : StagingCleanupResult) : Prop :=
  result.dryRun = false → result.examined = result.deleted + result.skipped + result.failed

namespace MaintenanceTaskRun

/-- What every write but the start of an execution does. -/
structure Follows (row next : MaintenanceTaskRun) : Prop where
  attempts : next.attemptCount = row.attemptCount
  bound : next.maxAttempts = row.maxAttempts
  running : next.status = .running → row.status = .running

def Absorbs (row next : MaintenanceTaskRun) : Prop :=
  row.status.Ended → next.status = row.status

structure Tame (row next : MaintenanceTaskRun) : Prop where
  absorbs : row.Absorbs next
  result : next.result = row.result

variable {row next : MaintenanceTaskRun} {now : Time}

theorem Follows.refl (row : MaintenanceTaskRun) : row.Follows row := ⟨rfl, rfl, id⟩

theorem Tame.refl (row : MaintenanceTaskRun) : row.Tame row := ⟨fun _ => rfl, rfl⟩

theorem not_ended_of_running (running : row.status = .running) : ¬row.status.Ended := by
  rw [running]
  decide

theorem follows_fail (now : Time) (code : String) : row.Follows (row.fail now code) :=
  ⟨rfl, rfl, nofun⟩

theorem follows_pulse (now : Time) : row.Follows (row.pulse now) := ⟨rfl, rfl, id⟩

theorem follows_finish (now : Time) (result : StagingCleanupResult) :
    row.Follows (row.finish now result) ∧ (row.finish now result).result = some result := by
  unfold finish
  simp only
  split
  · exact ⟨⟨rfl, rfl, nofun⟩, rfl⟩
  · split
    · exact ⟨⟨rfl, rfl, nofun⟩, rfl⟩
    · exact ⟨⟨rfl, rfl, nofun⟩, rfl⟩

theorem follows_reconcile (now : Time) (answer : QueueAnswer) :
    row.Follows (row.reconcile now answer) ∧ (row.reconcile now answer).result = row.result := by
  cases answer with
  | conflict code => exact ⟨follows_fail now code, rfl⟩
  | unavailable accepted =>
      refine ⟨⟨rfl, rfl, fun running => ?_⟩, rfl⟩
      by_contra idle
      simp [reconcile, idle] at running
  | enqueued task =>
      simp only [reconcile]
      split
      · split
        · exact ⟨⟨rfl, rfl, id⟩, rfl⟩
        · exact ⟨follows_fail now _, rfl⟩
      · split
        · exact ⟨⟨rfl, rfl, nofun⟩, rfl⟩
        · exact ⟨⟨rfl, rfl, id⟩, rfl⟩

theorem status_assign_ne_running (now : Time) (outcome : EnqueueOutcome) :
    (row.assign now outcome).status ≠ .running := by
  cases outcome <;> exact fun running => nomatch running

/-- The status that a flush leaves. -/
theorem status_flush (now : Time) (loaded assigned : MaintenanceTaskRun) :
    (row.flush now loaded assigned).status =
      column loaded.status assigned.status row.status := by
  unfold flush
  split
  · next same => rw [same, column, if_pos rfl]
  · rfl

theorem follows_flush (row : MaintenanceTaskRun) (now : Time) (loaded : MaintenanceTaskRun)
    (outcome : EnqueueOutcome) :
    row.Follows (row.flush now loaded (loaded.assign now outcome)) ∧
      (row.flush now loaded (loaded.assign now outcome)).result = row.result := by
  have running : (row.flush now loaded (loaded.assign now outcome)).status = .running →
      row.status = .running := by
    rw [status_flush, column]
    split
    · exact id
    · exact fun running => absurd running (status_assign_ne_running now outcome)
  have kept : (row.flush now loaded (loaded.assign now outcome)).attemptCount =
        row.attemptCount ∧
      (row.flush now loaded (loaded.assign now outcome)).maxAttempts = row.maxAttempts ∧
      (row.flush now loaded (loaded.assign now outcome)).result = row.result := by
    unfold flush
    split <;> exact ⟨rfl, rfl, rfl⟩
  exact ⟨⟨kept.1, kept.2.1, running⟩, kept.2.2⟩

theorem ReconcileCandidate.not_ended (candidate : row.ReconcileCandidate settings now) :
    ¬row.status.Ended := by
  rcases candidate.2 with queued | retrying | enqueueFailed | running
  · rw [queued]
    decide
  · rw [retrying]
    decide
  · rw [enqueueFailed]
    decide
  · exact not_ended_of_running running.1

/-! ### Starts -/

/-- Too old for `_start_run` to leave the run alone. -/
def Stale (settings : MaintenanceSettings) (now : Time) (row : MaintenanceTaskRun) : Prop :=
  ∃ heartbeat ∈ row.heartbeatAt <|> row.startedAt,
    heartbeat ≤ now - seconds settings.maintenanceTaskTimeoutSeconds

theorem start_settled {taskName : MaintenanceTaskName}
    (settled : row.start settings now taskName = .settled next) :
    row.Follows next ∧ row.Tame next := by
  unfold start at settled
  simp only at settled
  split at settled
  · nomatch settled
  · split at settled
    · cases settled
      exact ⟨.refl row, .refl row⟩
    · next active =>
        split at settled
        · nomatch settled
        · split at settled
          · nomatch settled
          · split at settled
            · cases settled
              exact ⟨follows_fail now _, fun ended => absurd ended active, rfl⟩
            · nomatch settled

structure Started (settings : MaintenanceSettings) (now : Time)
    (row next : MaintenanceTaskRun) : Prop where
  active : ¬row.status.Ended
  stale : row.status = .running → row.Stale settings now
  room : row.attemptCount < row.maxAttempts
  attempts : next.attemptCount = row.attemptCount + 1
  bound : next.maxAttempts = row.maxAttempts
  result : next.result = row.result

theorem start_started {taskName : MaintenanceTaskName}
    (started : row.start settings now taskName = .started next) :
    Started settings now row next := by
  unfold start at started
  simp only at started
  split at started
  · nomatch started
  · split at started
    · nomatch started
    · next active =>
        split at started
        · nomatch started
        · next idle =>
            split at started
            · nomatch started
            · split at started
              · nomatch started
              · next room =>
                  cases started
                  refine ⟨active, fun running => ?_, Nat.lt_of_not_le room, rfl, rfl, rfl⟩
                  rw [not_and] at idle
                  have late := idle running
                  push Not at late
                  exact late

end MaintenanceTaskRun

/-! ## What an execution counts -/

def CleanupWork.pending (work : CleanupWork) : ExecutionStage → Nat
  | .claiming _ _ => work.confirmationIds.length + 1
  | .claimed _ _ => work.confirmationIds.length + 1
  | .deleting _ _ => work.confirmationIds.length + 1
  | .confirming remaining => remaining.length
  | .deletingAgain _ remaining => remaining.length + 1
  | .finishing => 0
  | .recording => 0
  | _ => work.confirmationIds.length

def CleanupWork.Counts (work : CleanupWork) (stage : ExecutionStage) : Prop :=
  work.dryRun = false →
    work.examined = work.deleted + work.skipped + work.failed + work.pending stage

def ExecutionMove.Counts : ExecutionMove → Prop
  | .goes work stage => work.Counts stage
  | .pulses work stage => work.Counts stage
  | .finishes work => work.Counts .recording

/-- Every object goes into one of the counters or waits for its confirmation. -/
theorem CleanupWork.counts_cleaned {work : CleanupWork} {upload : StagingUploadId}
    {remaining : List StagingUploadId} (counts : work.Counts (.deleting upload remaining))
    (error : Option String) : (work.cleaned upload error).Counts (.examining remaining) := by
  cases error with
  | none =>
      intro wet
      have counted := counts wet
      simp only [cleaned, pending] at counted ⊢
      omega
  | some code =>
      simp only [cleaned]
      split
      · intro wet
        have counted := counts wet
        simp only [pending, List.length_append, List.length_singleton] at counted ⊢
        omega
      · split
        · intro wet
          have counted := counts wet
          simp only [skip, pending] at counted ⊢
          omega
        · intro wet
          have counted := counts wet
          simp only [failing, pending] at counted ⊢
          omega

theorem CleanupWork.counts_cleanedAgain {work : CleanupWork} {upload : StagingUploadId}
    {remaining : List StagingUploadId} (counts : work.Counts (.deletingAgain upload remaining))
    (error : Option String) :
    (work.cleanedAgain error).Counts (.confirming remaining) := by
  cases error with
  | none =>
      intro wet
      have counted := counts wet
      simp only [cleanedAgain, pending] at counted ⊢
      omega
  | some code =>
      simp only [cleanedAgain]
      split
      · intro wet
        have counted := counts wet
        simp only [skip, pending] at counted ⊢
        omega
      · intro wet
        have counted := counts wet
        simp only [failing, pending] at counted ⊢
        omega

theorem CleanupWork.counts_move {work : CleanupWork} {stage : ExecutionStage}
    (counts : work.Counts stage) (choice : MaintenanceChoice) :
    (work.move choice stage).Counts := by
  cases stage with
  | selecting => exact counts
  | examining remaining =>
      cases remaining with
      | nil => exact counts
      | cons upload remaining =>
          simp only [move]
          split
          · exact counts
          · intro wet
            have counted := counts wet
            simp only [pending] at counted ⊢
            omega
  | claiming upload remaining =>
      simp only [move]
      split
      · exact counts
      · split
        · intro wet
          have counted := counts wet
          simp only [skip, pending] at counted ⊢
          omega
        · split
          · next dry => exact fun wet => nomatch dry.symm.trans wet
          · exact counts
  | claimed upload remaining => exact counts
  | deleting upload remaining =>
      simp only [move]
      split
      · exact counts
      · exact counts_cleaned counts choice.error
  | examined =>
      simp only [move]
      split
      · next unneeded =>
          intro wet
          have counted := counts wet
          rcases unneeded with unconfirmed | dry
          · have nothing : work.pending .examined = 0 := congrArg List.length unconfirmed
            rw [counted, nothing]
            rfl
          · nomatch dry.symm.trans wet
      · split
        · intro wet
          have counted := counts wet
          simp only [pending] at counted ⊢
          omega
        · exact counts
  | sleeping =>
      simp only [move]
      split
      · exact counts
      · exact counts
  | confirming remaining =>
      cases remaining with
      | nil => exact counts
      | cons upload remaining =>
          simp only [move]
          split
          · intro wet
            have counted := counts wet
            simp only [failing, pending, List.length_cons] at counted ⊢
            omega
          · exact counts
  | deletingAgain upload remaining =>
      simp only [move]
      split
      · exact counts
      · exact counts_cleanedAgain counts choice.error
  | finishing => exact counts
  | recording => exact counts

/-! ## What a step does to the ledger -/

namespace MaintenanceStore

variable {store after : MaintenanceStore}
  {Keeps : MaintenanceTaskRun → MaintenanceTaskRun → Prop}

theorem runs_empty (id : MaintenanceRunId) : empty.runs id = none := rfl

theorem runs_setRun {id : MaintenanceRunId} {row : MaintenanceTaskRun}
    (found : store.runs id = some row) (next : MaintenanceTaskRun) :
    (store.setRun id next).runs = Function.update store.runs id (some next) := by
  funext other
  rcases List.getElem?_eq_some_iff.mp found with ⟨inside, -⟩
  by_cases same : other = id
  · rcases same with rfl
    rw [Function.update_self]
    exact List.getElem?_set_self inside
  · rw [Function.update_of_ne same]
    exact List.getElem?_set_ne (Ne.symm same)

theorem runs_accept (store : MaintenanceStore) (id : MaintenanceRunId) (accepted : Bool) :
    (store.accept id accepted).runs = store.runs := by
  unfold accept
  split <;> rfl

/-- The ledger may get a new run, and every other row is followed by one that keeps what is
to be kept. -/
structure Leads (Keeps : MaintenanceTaskRun → MaintenanceTaskRun → Prop)
    (store after : MaintenanceStore) : Prop where
  kept : ∀ id row, store.runs id = some row →
    ∃ next, after.runs id = some next ∧ row.Follows next ∧ Keeps row next
  added : ∀ id row, store.runs id = none → after.runs id = some row →
    row.attemptCount = 0 ∧ row.result = none

theorem Leads.ofSame (refl : ∀ row, Keeps row row) (runs : after.runs = store.runs) :
    Leads Keeps store after where
  kept id row found := ⟨row, runs ▸ found, .refl row, refl row⟩
  added id row absent found := by
    rw [runs, absent] at found
    nomatch found

theorem Leads.ofUpdate (refl : ∀ row, Keeps row row) {id : MaintenanceRunId}
    {row next : MaintenanceTaskRun} (found : store.runs id = some row)
    (follows : row.Follows next ∧ Keeps row next)
    (runs : after.runs = Function.update store.runs id (some next)) :
    Leads Keeps store after where
  kept other otherRow otherFound := by
    rw [runs]
    by_cases same : other = id
    · rcases same with rfl
      rcases Option.some.inj (found.symm.trans otherFound) with rfl
      exact ⟨next, Function.update_self .., follows⟩
    · exact ⟨otherRow, (Function.update_of_ne same ..).trans otherFound, .refl otherRow,
        refl otherRow⟩
  added other otherRow absent otherFound := by
    rw [runs] at otherFound
    by_cases same : other = id
    · rcases same with rfl
      nomatch found.symm.trans absent
    · rw [Function.update_of_ne same, absent] at otherFound
      nomatch otherFound

theorem leads_setRun (refl : ∀ row, Keeps row row) {id : MaintenanceRunId}
    {row next : MaintenanceTaskRun} (found : store.runs id = some row)
    (follows : row.Follows next ∧ Keeps row next) :
    Leads Keeps store (store.setRun id next) :=
  .ofUpdate refl found follows (runs_setRun found next)

/-- The queue may accept the job of the run before the row is written. -/
theorem leads_accept_setRun (refl : ∀ row, Keeps row row) {id : MaintenanceRunId}
    {row next : MaintenanceTaskRun} (found : store.runs id = some row) (accepted : Bool)
    (follows : row.Follows next ∧ Keeps row next) :
    Leads Keeps store ((store.accept id accepted).setRun id next) := by
  have acceptedFound : (store.accept id accepted).runs id = some row :=
    (congrFun (store.runs_accept id accepted) id).trans found
  apply Leads.ofUpdate refl found follows
  rw [runs_setRun acceptedFound, runs_accept]

theorem Leads.mono {Keeps' : MaintenanceTaskRun → MaintenanceTaskRun → Prop}
    (leads : Leads Keeps store after) (weaker : ∀ row next, Keeps row next → Keeps' row next) :
    Leads Keeps' store after where
  kept id row found := by
    rcases leads.kept id row found with ⟨next, nextFound, follows, keeps⟩
    exact ⟨next, nextFound, follows, weaker row next keeps⟩
  added := leads.added

theorem leads_amendRun (refl : ∀ row, Keeps row row) {id : MaintenanceRunId}
    {update : MaintenanceTaskRun → MaintenanceTaskRun}
    (follows : ∀ row : MaintenanceTaskRun, store.runs id = some row →
      row.Follows (update row) ∧ Keeps row (update row)) :
    Leads Keeps store (store.amendRun id update) := by
  unfold amendRun
  split
  · exact .ofSame refl rfl
  · next row found => exact leads_setRun refl found (follows row found)

theorem leads_create (refl : ∀ row, Keeps row row) (settings : MaintenanceSettings) (now : Time)
    (identity : MaintenanceIdentity) :
    Leads Keeps store (store.create (.new settings now identity)) where
  kept id row found :=
    ⟨row, (List.getElem?_append_left (List.getElem?_eq_some_iff.mp found).1).trans found,
      .refl row, refl row⟩
  added id row absent found := by
    have appended : (store.rows ++ [MaintenanceTaskRun.new settings now identity])[id]? =
      some row := found
    rw [List.getElem?_append_right (List.getElem?_eq_none_iff.mp absent)] at appended
    rcases List.mem_singleton.mp (List.mem_of_getElem? appended) with rfl
    exact ⟨rfl, rfl⟩

theorem pulse_eq_some {lag : Nat} {execution : MaintenanceExecution}
    (pulsed : store.pulse lag execution = some after) :
    store.OwnedBy execution ∧
      after = store.amendRun execution.run (·.pulse (store.clock - lag)) := by
  unfold pulse at pulsed
  split at pulsed
  · next owned => exact ⟨owned, (Option.some.inj pulsed).symm⟩
  · nomatch pulsed

end MaintenanceStore

/-! ## What a process does -/

theorem enqueueLocked_leads {store : MaintenanceStore} {answer : QueueAnswer}
    {id : MaintenanceRunId} {row : MaintenanceTaskRun} (found : store.runs id = some row) :
    MaintenanceStore.Leads MaintenanceTaskRun.Tame store (enqueueLocked store answer id row) := by
  unfold enqueueLocked
  split
  · exact .ofSame MaintenanceTaskRun.Tame.refl rfl
  · next idle =>
      rw [not_or] at idle
      have written (outcome : EnqueueOutcome) :
          row.Follows (row.flush store.clock row (row.assign store.clock outcome)) ∧
            row.Tame (row.flush store.clock row (row.assign store.clock outcome)) := by
        have follows := row.follows_flush store.clock row outcome
        exact ⟨follows.1, fun ended => absurd ended idle.2, follows.2⟩
      split
      · exact MaintenanceStore.leads_setRun MaintenanceTaskRun.Tame.refl found
          (written .exhausted)
      · exact MaintenanceStore.leads_accept_setRun MaintenanceTaskRun.Tame.refl found
          answer.accepted (written answer.outcome)

/-- An execution that does not own its run changes nothing. -/
theorem advanceExecution_disowned {store : MaintenanceStore} {execution : MaintenanceExecution}
    (disowned : ¬store.OwnedBy execution) (choice : MaintenanceChoice) (work : CleanupWork)
    (stage : ExecutionStage) :
    (advanceMaintenance settings choice (.executing execution work stage) store).2 = store := by
  simp only [advanceMaintenance]
  split
  · rfl
  · split
    · rfl
    · next pulsed => exact absurd (MaintenanceStore.pulse_eq_some pulsed).1 disowned
  · exact if_neg disowned

/-- What a process keeps of the rows. Only a request that commits its outcome without a lock
and an execution that finishes do more than tame writes. -/
theorem advanceMaintenance_leads {store : MaintenanceStore}
    {Keeps : MaintenanceTaskRun → MaintenanceTaskRun → Prop}
    (tame : ∀ row next : MaintenanceTaskRun, row.Tame next → Keeps row next)
    (choice : MaintenanceChoice) (phase : MaintenancePhase)
    (answered : ∀ id loaded outcome, phase = .answered id loaded outcome →
      ∀ row, store.runs id = some row →
        Keeps row (row.flush store.clock loaded (loaded.assign store.clock outcome)))
    (finished : ∀ execution work stage done, phase = .executing execution work stage →
      work.move choice stage = .finishes done →
      ∀ row : MaintenanceTaskRun, row.status = .running →
        Keeps row (row.finish store.clock (done.result execution))) :
    MaintenanceStore.Leads Keeps store (advanceMaintenance settings choice phase store).2 := by
  have refl (row : MaintenanceTaskRun) : Keeps row row := tame row row (.refl row)
  cases phase with
  | requested identity =>
      simp only [advanceMaintenance]
      split
      · exact .ofSame refl rfl
      · split
        · exact .ofSame refl rfl
        · next row found => exact (enqueueLocked_leads found).mono tame
  | creating identity =>
      simp only [advanceMaintenance]
      split
      · exact .ofSame refl rfl
      · exact MaintenanceStore.leads_create refl settings _ identity
  | reloading identity =>
      simp only [advanceMaintenance]
      split
      · exact .ofSame refl rfl
      · split
        · exact .ofSame refl rfl
        · split
          · exact .ofSame refl rfl
          · exact .ofSame refl rfl
  | enqueueing id loaded => exact .ofSame refl (store.runs_accept id _)
  | answered id loaded outcome =>
      exact MaintenanceStore.leads_amendRun refl fun row found =>
        ⟨(row.follows_flush _ loaded outcome).1,
          answered id loaded outcome rfl row found⟩
  | executing execution work stage =>
      simp only [advanceMaintenance]
      split
      · exact .ofSame refl rfl
      · split
        · exact .ofSame refl rfl
        · next after pulsed =>
            rw [(MaintenanceStore.pulse_eq_some pulsed).2]
            exact MaintenanceStore.leads_amendRun refl fun row _ =>
              ⟨MaintenanceTaskRun.follows_pulse _, tame row _ ⟨fun _ => rfl, rfl⟩⟩
      · next done moved =>
          unfold MaintenanceStore.finish
          split
          · next owned =>
              rcases owned with ⟨owned, ownedFound, running, -⟩
              apply MaintenanceStore.leads_amendRun refl
              intro row found
              rcases Option.some.inj (ownedFound.symm.trans found) with rfl
              exact ⟨(MaintenanceTaskRun.follows_finish _ _).1,
                finished execution work stage done rfl moved owned running⟩
          · exact .ofSame refl rfl

end RvcOrchestrator.Manager

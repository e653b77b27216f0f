import RvcOrchestrator.Worker.TelemetryDelivery

/-! # The spool loses nothing

A pending batch stays until the Manager has accepted it or its file is kept as a dead letter.
-/

namespace RvcOrchestrator.Worker

open RvcOrchestrator.Foundation

namespace TelemetryWorld

/-- A flush lists pending files, each once, and its current one has arrived if it says so. -/
structure FlushSound (world : TelemetryWorld) (flush : Flush) : Prop where
  names : (flush.records.map SpoolRecord.name).Nodup
  pending : ∀ record ∈ flush.records, record ∈ world.spool.pending
  arrived : flush.sent = some true → ∀ record ∈ flush.records.head?, record ∈ world.received

def FlushFits (world : TelemetryWorld) : Prop :=
  ∀ flush ∈ world.flush, world.FlushSound flush

/-- Why a batch is no longer pending after a step: it has reached the Manager, which accepts it, or
it is refused or cannot be read, and its file becomes a dead letter. -/
inductive Settled (world next : TelemetryWorld) (record : SpoolRecord) : TelemetryStep → Prop
  | accepted (reached : record ∈ world.received) : Settled world next record (.answer .accepted)
  | refused (statusCode : Option Nat)
      (kept : (record, deadLetterReason statusCode) ∈ next.spool.deadLetter) :
      Settled world next record (.answer (.refused statusCode))
  | misread (kept : (record, "corrupt") ∈ next.spool.deadLetter) :
      Settled world next record .misread

/-- What a step leaves of the batches and of the flush. -/
structure Keeps (world next : TelemetryWorld) (step : TelemetryStep) : Prop where
  pending : ∀ record ∈ world.spool.pending,
    record ∈ next.spool.pending ∨ Settled world next record step
  received : world.received <+: next.received
  deadLetter : world.spool.deadLetter <:+ next.spool.deadLetter
  flush : next.FlushFits

section

variable {world next : TelemetryWorld} {settings : SpoolSettings} {step : TelemetryStep}
  {record : SpoolRecord} {spool : TelemetrySpool}

/-- A step that only adds pending files. -/
theorem keeps_of_added (sound : world.FlushFits)
    (added : world.spool.pending ⊆ next.spool.pending ∧
      next.spool.deadLetter = world.spool.deadLetter)
    (same : next.flush = world.flush) (received : next.received = world.received) :
    Keeps world next step where
  pending _ member := .inl (added.1 member)
  received := received ▸ List.prefix_rfl
  deadLetter := added.2 ▸ List.suffix_rfl
  flush flush flushing := by
    have listed := sound flush (same ▸ flushing)
    exact ⟨listed.names, fun record member => added.1 (listed.pending record member),
      received ▸ listed.arrived⟩

theorem keeps_of_same (sound : world.FlushFits)
    (spool : next.spool = world.spool) (same : next.flush = world.flush)
    (received : next.received = world.received) : Keeps world next step :=
  keeps_of_added sound (spool ▸ ⟨List.Subset.refl _, rfl⟩) same received

theorem enqueue_adds (enqueued : world.spool.enqueue settings record = .ok spool) :
    world.spool.pending ⊆ spool.pending ∧ spool.deadLetter = world.spool.deadLetter := by
  rcases enqueue_eq_ok enqueued with rfl | ⟨rfl, -⟩
  · exact ⟨List.Subset.refl _, rfl⟩
  · exact ⟨List.subset_append_left _ _, rfl⟩

theorem record_keeps (sound : world.FlushFits)
    (event : AttemptTelemetrySession → EventOutcome) : Keeps world (world.record event) step := by
  unfold record
  split
  · exact keeps_of_same sound rfl rfl rfl
  · split <;> exact keeps_of_same sound rfl rfl rfl

theorem write_keeps (sound : world.FlushFits) :
    Keeps world (world.write settings) step := by
  unfold write
  split
  · exact keeps_of_same sound rfl rfl rfl
  · split
    · split
      · exact keeps_of_same sound rfl rfl rfl
      · next enqueued => exact keeps_of_added sound (enqueue_adds enqueued) rfl rfl
    · split
      · exact keeps_of_same sound rfl rfl rfl
      · split
        · exact keeps_of_same sound rfl rfl rfl
        · next enqueued => exact keeps_of_added sound (enqueue_adds enqueued) rfl rfl
    · exact keeps_of_same sound rfl rfl rfl

theorem send_keeps (sound : world.FlushFits) (reaches : Bool) :
    Keeps world (world.send reaches) step := by
  unfold send
  split
  · next record records flushing =>
      have listed := sound _ flushing
      refine ⟨fun _ member => .inl member, ?_, List.suffix_rfl, ?_⟩
      · cases reaches <;> simp
      · rintro _ ⟨⟩
        refine ⟨listed.names, listed.pending, ?_⟩
        rintro ⟨⟩ _ ⟨⟩
        simp
  · exact keeps_of_same sound rfl rfl rfl

/-- The current batch of a flush leaves the pending files. -/
theorem settle_keeps {records : List SpoolRecord} {sent : Option Bool}
    (names : (world.spool.pending.map SpoolRecord.name).Nodup)
    (listed : world.FlushSound ⟨record :: records, sent⟩)
    (removed : spool.pending = (world.spool.removeRecord record).pending)
    (deadLetter : world.spool.deadLetter <:+ spool.deadLetter)
    (settled : Settled world { world with spool, flush := some ⟨records, none⟩ } record step) :
    Keeps world { world with spool, flush := some ⟨records, none⟩ } step := by
  have stays : ∀ other ∈ world.spool.pending, other.name ≠ record.name →
      other ∈ spool.pending := by
    intro other member different
    rw [removed]
    exact List.mem_filter.mpr ⟨member, decide_eq_true different⟩
  have apart := List.nodup_cons.mp listed.names
  refine ⟨fun other member => ?_, List.prefix_rfl, deadLetter, ?_⟩
  · by_cases same : other.name = record.name
    · rw [List.inj_on_of_nodup_map names member (listed.pending record List.mem_cons_self) same]
      exact .inr settled
    · exact .inl (stays other member same)
  · rintro _ ⟨⟩
    refine ⟨apart.2, fun other member => ?_, nofun⟩
    apply stays other (listed.pending other (List.mem_cons_of_mem _ member))
    exact fun same => apart.1 (same ▸ List.mem_map_of_mem member)

theorem misread_keeps (names : (world.spool.pending.map SpoolRecord.name).Nodup)
    (sound : world.FlushFits) : Keeps world world.misread .misread := by
  unfold misread
  split
  · next record records flushing =>
      exact settle_keeps names (sound _ flushing) rfl (List.suffix_cons (record, "corrupt") _)
        (.misread List.mem_cons_self)
  · exact keeps_of_same sound rfl rfl rfl

theorem answer_keeps (names : (world.spool.pending.map SpoolRecord.name).Nodup)
    (sound : world.FlushFits) (outcome : SendOutcome) :
    Keeps world (world.answer outcome) (.answer outcome) := by
  unfold answer
  split
  · next record records reached flushing =>
      have listed := sound _ flushing
      split
      · exact settle_keeps names listed rfl List.suffix_rfl
          (.accepted (listed.arrived rfl record rfl))
      · next statusCode =>
          exact settle_keeps names listed rfl
            (List.suffix_cons (record, deadLetterReason statusCode) _)
            (.refused statusCode List.mem_cons_self)
      · exact ⟨fun _ member => .inl member, List.prefix_rfl, List.suffix_rfl, nofun⟩
      · exact keeps_of_same sound rfl rfl rfl
  · exact keeps_of_same sound rfl rfl rfl

theorem stepTelemetry_keeps (text : SessionText)
    (names : (world.spool.pending.map SpoolRecord.name).Nodup)
    (sound : world.FlushFits) (step : TelemetryStep) :
    Keeps world (stepTelemetry settings text world step) step := by
  cases step with
  | write => exact write_keeps sound
  | writeOther record =>
      rw [stepTelemetry, writeOther]
      split
      · exact keeps_of_same sound rfl rfl rfl
      · split
        · exact keeps_of_same sound rfl rfl rfl
        · next enqueued => exact keeps_of_added sound (enqueue_adds enqueued) rfl rfl
  | flush =>
      rw [stepTelemetry, startFlush]
      split
      · exact keeps_of_same sound rfl rfl rfl
      · refine ⟨fun _ member => .inl member, List.prefix_rfl, List.suffix_rfl, ?_⟩
        rintro _ ⟨⟩
        have listed := listPending_perm world.spool
        exact ⟨(listed.map _).nodup_iff.mpr names, fun _ => listed.mem_iff.mp, by simp⟩
  | misread => exact misread_keeps names sound
  | send reaches => exact send_keeps sound reaches
  | answer outcome => exact answer_keeps names sound outcome
  | abandonFlush =>
      exact ⟨fun _ member => .inl member, List.prefix_rfl, List.suffix_rfl, by rintro _ ⟨⟩⟩
  | finishTraining | watermarks =>
      rw [stepTelemetry]
      split <;> exact keeps_of_same sound rfl rfl rfl
  | _ =>
      rw [stepTelemetry]
      exact record_keeps sound _

end

/-- Whatever the order of events, flushes and answers: a pending batch stays until the Manager has
it and accepts it, or it is refused or cannot be read and is kept as a dead letter. Dead letters
stay. -/
theorem spool_losesNothing (settings : SpoolSettings) (text : SessionText)
    (jobId attemptId leaseId : String) (maxSourceEvents : Nat)
    (steps further : List TelemetryStep) :
    let world := run (stepTelemetry settings text) (start jobId attemptId leaseId maxSourceEvents)
      steps
    let later := run (stepTelemetry settings text) world further
    (∀ step, Keeps world (stepTelemetry settings text world step) step) ∧
      (∀ record ∈ world.spool.pending, record ∈ later.spool.pending ∨ record ∈ later.received ∨
        ∃ reason, (record, reason) ∈ later.spool.deadLetter) ∧
      world.received <+: later.received ∧
      world.spool.deadLetter <:+ later.spool.deadLetter := by
  intro world later
  have kept : ∀ world, WorldFits attemptId world ∧ world.FlushFits → ∀ step,
      Keeps world (stepTelemetry settings text world step) step :=
    fun _ reached step => stepTelemetry_keeps text reached.1.names reached.2 step
  have step_reached : ∀ world step, WorldFits attemptId world ∧ world.FlushFits →
      WorldFits attemptId (stepTelemetry settings text world step) ∧
        (stepTelemetry settings text world step).FlushFits :=
    fun world step reached =>
      ⟨stepTelemetry_fits settings text reached.1 step, (kept world reached step).flush⟩
  have reached : WorldFits attemptId world ∧ world.FlushFits :=
    run_preserves _ step_reached
      ⟨start_fits jobId attemptId leaseId maxSourceEvents, nofun⟩ steps
  refine ⟨kept world reached, ?_⟩
  clear_value world
  induction further generalizing world with
  | nil => exact ⟨fun _ member => .inl member, List.prefix_rfl, List.suffix_rfl⟩
  | cons step further induction =>
      have here := kept world reached step
      rcases induction (stepTelemetry settings text world step) (step_reached world step reached)
        with ⟨pending, received, deadLetter⟩
      refine ⟨fun record member => ?_, here.received.trans received,
        here.deadLetter.trans deadLetter⟩
      rcases here.pending record member with stays | settled
      · exact pending record stays
      · cases settled with
        | accepted reached => exact .inr (.inl ((here.received.trans received).subset reached))
        | refused statusCode kept => exact .inr (.inr ⟨_, deadLetter.subset kept⟩)
        | misread kept => exact .inr (.inr ⟨_, deadLetter.subset kept⟩)

end TelemetryWorld

end RvcOrchestrator.Worker

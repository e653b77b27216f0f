import Mathlib.Tactic.Common

/-! # Job statuses

The status alphabet shared by the Manager and the Workers, and the transition
table every status writer is checked against.
-/

namespace RvcOrchestrator.Contracts

inductive JobStatus where
  | queued
  | assigned
  | downloadingDataset
  | validatingDataset
  | preparingFlatDataset
  | preprocessing
  | extractingF0
  | extractingFeatures
  | training
  | savingCheckpoint
  | buildingIndex
  | collectingSmallModel
  | generatingSamples
  | evaluating
  | uploadingArtifacts
  | completed
  | failed
  | cancelled
  | retrying
deriving DecidableEq, Repr

namespace JobStatus

def value : JobStatus → String
  | queued => "queued"
  | assigned => "assigned"
  | downloadingDataset => "downloading_dataset"
  | validatingDataset => "validating_dataset"
  | preparingFlatDataset => "preparing_flat_dataset"
  | preprocessing => "preprocessing"
  | extractingF0 => "extracting_f0"
  | extractingFeatures => "extracting_features"
  | training => "training"
  | savingCheckpoint => "saving_checkpoint"
  | buildingIndex => "building_index"
  | collectingSmallModel => "collecting_small_model"
  | generatingSamples => "generating_samples"
  | evaluating => "evaluating"
  | uploadingArtifacts => "uploading_artifacts"
  | completed => "completed"
  | failed => "failed"
  | cancelled => "cancelled"
  | retrying => "retrying"

end JobStatus

def terminalJobStatuses : List JobStatus :=
  [.completed, .failed, .cancelled]

private def failureOrCancel : List JobStatus :=
  [.failed, .cancelled]

def allowedJobTransitions : JobStatus → List JobStatus
  | .queued => [.assigned, .failed, .cancelled]
  | .assigned => .downloadingDataset :: failureOrCancel
  | .downloadingDataset => .validatingDataset :: failureOrCancel
  | .validatingDataset => .preparingFlatDataset :: .preprocessing :: failureOrCancel
  | .preparingFlatDataset => .preprocessing :: failureOrCancel
  | .preprocessing => .extractingF0 :: .extractingFeatures :: failureOrCancel
  | .extractingF0 => .extractingFeatures :: failureOrCancel
  | .extractingFeatures => .training :: failureOrCancel
  | .training =>
      .savingCheckpoint :: .buildingIndex :: .collectingSmallModel :: failureOrCancel
  | .savingCheckpoint => .buildingIndex :: .collectingSmallModel :: failureOrCancel
  | .buildingIndex => .collectingSmallModel :: failureOrCancel
  | .collectingSmallModel =>
      .generatingSamples :: .evaluating :: .uploadingArtifacts :: failureOrCancel
  | .generatingSamples => .evaluating :: .uploadingArtifacts :: failureOrCancel
  | .evaluating => .uploadingArtifacts :: failureOrCancel
  | .uploadingArtifacts => .completed :: failureOrCancel
  | .completed => []
  | .failed => [.retrying]
  | .cancelled => []
  | .retrying => [.queued]

structure InvalidJobTransition where
  message : String
deriving DecidableEq, Repr

def canTransitionJob (current target : JobStatus) (allowSame : Bool) : Bool :=
  (allowSame && current == target) || target ∈ allowedJobTransitions current

/-- The callers in the Manager all leave `allow_same` at its default `True`. -/
def validateJobTransition (current target : JobStatus) :
    Except InvalidJobTransition JobStatus :=
  if canTransitionJob current target true then
    .ok target
  else
    .error ⟨"job status cannot transition from '" ++ current.value ++ "' to '" ++
      target.value ++ "'"⟩

namespace JobStatus

@[reducible] def Terminal (status : JobStatus) : Prop :=
  status ∈ terminalJobStatuses

@[reducible] def Leased (status : JobStatus) : Prop :=
  status ≠ queued ∧ status ≠ retrying ∧ ¬status.Terminal

end JobStatus

/-! ## Facts about the table -/

theorem validateJobTransition_eq_ok {current target result : JobStatus}
    (accepted : validateJobTransition current target = .ok result) :
    result = target ∧ (target = current ∨ target ∈ allowedJobTransitions current) := by
  unfold validateJobTransition at accepted
  split at accepted
  · next allowed =>
      injection accepted with equal
      simp only [canTransitionJob, Bool.true_and, Bool.or_eq_true, beq_iff_eq,
        decide_eq_true_eq] at allowed
      exact ⟨equal.symm, allowed.imp Eq.symm id⟩
  · cases accepted

/-- Failure and cancellation are open to every leased execution state. -/
theorem failed_mem_allowed {status : JobStatus} (leased : status.Leased) :
    JobStatus.failed ∈ allowedJobTransitions status := by
  cases status <;> first | decide | exact absurd leased (by decide)

theorem cancelled_mem_allowed {status : JobStatus} (leased : status.Leased) :
    JobStatus.cancelled ∈ allowedJobTransitions status := by
  cases status <;> first | decide | exact absurd leased (by decide)

/-- From a leased state the table leads only to leased and terminal states. -/
theorem leased_or_terminal_of_allowed {current target : JobStatus} (leased : current.Leased)
    (allowed : target ∈ allowedJobTransitions current) :
    target.Leased ∨ target.Terminal := by
  cases current <;> cases target <;>
    first | decide | exact absurd leased (by decide) | exact absurd allowed (by decide)

theorem ne_of_allowed {current target : JobStatus}
    (allowed : target ∈ allowedJobTransitions current) : target ≠ current := by
  cases current <;> cases target <;> first | decide | exact absurd allowed (by decide)

theorem not_terminal_of_leased {status : JobStatus} (leased : status.Leased) :
    ¬status.Terminal :=
  leased.2.2

end RvcOrchestrator.Contracts

import Mathlib.Data.List.Basic
import RvcOrchestrator.Foundation.Execution

/-! # Bounded bodies

A body comes in pieces and is kept up to a limit. What comes of it depends on what arrives
before its end and on how it ends, not on how it is cut.
-/

namespace RvcOrchestrator.Foundation

variable {α : Type}

inductive Piece (α : Type) where
  | chunk (elements : List α) (last : Bool)
  | skipped
  | closed

inductive Ending where
  | pending
  | complete
  | closed
deriving DecidableEq

/-- What arrives before the body ends, and how it ends. -/
def gathered : List (Piece α) → List α × Ending
  | [] => ([], .pending)
  | .skipped :: rest => gathered rest
  | .closed :: _ => ([], .closed)
  | .chunk elements true :: _ => (elements, .complete)
  | .chunk elements false :: rest => (elements ++ (gathered rest).1, (gathered rest).2)

/-! ## Reading up to a limit -/

inductive Reading (α : Type) where
  | going (chunks : List (List α)) (total : Nat)
  | whole (body : List α)
  | tooLarge
  | closed

namespace Reading

def take (limit : Nat) : Reading α → Piece α → Reading α
  | .going chunks total, .chunk elements last =>
      if limit < total + elements.length then .tooLarge
      else if last then .whole (chunks ++ [elements]).flatten
      else .going (chunks ++ [elements]) (total + elements.length)
  | .going chunks total, .skipped => .going chunks total
  | .going _ _, .closed => .closed
  | reading, _ => reading

/-- The reading is what a body that has arrived so far and ended so comes to. -/
def Meets (limit : Nat) (body : List α) (ending : Ending) : Reading α → Prop
  | .going chunks total =>
      ending = .pending ∧ chunks.flatten = body ∧ total = body.length ∧ body.length ≤ limit
  | .whole found => ending = .complete ∧ found = body ∧ body.length ≤ limit
  | .tooLarge => limit < body.length
  | .closed => ending = .closed ∧ body.length ≤ limit

theorem run_take_of_settled {limit : Nat} {reading : Reading α}
    (settled : ∀ piece, take limit reading piece = reading) (pieces : List (Piece α)) :
    run (take limit) reading pieces = reading := by
  induction pieces with
  | nil => rfl
  | cons piece pieces induction => rw [run_cons, settled, induction]

theorem meets_run_take {limit : Nat} (pieces : List (Piece α)) (chunks : List (List α))
    (within : chunks.flatten.length ≤ limit) :
    (run (take limit) (.going chunks chunks.flatten.length) pieces).Meets limit
      (chunks.flatten ++ (gathered pieces).1) (gathered pieces).2 := by
  induction pieces generalizing chunks with
  | nil => simpa [run, gathered, Meets] using within
  | cons piece pieces induction =>
      rw [run_cons]
      cases piece with
      | skipped => exact induction chunks within
      | closed =>
          rw [take, run_take_of_settled fun _ => rfl]
          simpa [gathered, Meets] using within
      | chunk elements last =>
          by_cases exceeds : limit < chunks.flatten.length + elements.length
          · rw [take, if_pos exceeds, run_take_of_settled fun _ => rfl]
            cases last <;> simp only [gathered, Meets, List.length_append] <;> omega
          · have fits : (chunks ++ [elements]).flatten.length ≤ limit := by
              simp only [List.flatten_append, List.flatten_singleton, List.length_append]
              omega
            cases last with
            | true =>
                rw [take, if_neg exceeds, if_pos rfl, run_take_of_settled fun _ => rfl]
                refine ⟨rfl, by simp [gathered], ?_⟩
                simpa [gathered] using fits
            | false =>
                have later := induction (chunks ++ [elements]) fits
                have total : chunks.flatten.length + elements.length =
                    (chunks ++ [elements]).flatten.length := by simp
                rw [take, if_neg exceeds, if_neg (by simp), total]
                simpa [gathered] using later

end Reading

def readBounded (limit : Nat) (pieces : List (Piece α)) : Reading α :=
  run (Reading.take limit) (.going [] 0) pieces

variable {limit : Nat} {pieces : List (Piece α)}

theorem readBounded_meets (limit : Nat) (pieces : List (Piece α)) :
    (readBounded limit pieces).Meets limit (gathered pieces).1 (gathered pieces).2 :=
  Reading.meets_run_take pieces [] (Nat.zero_le _)

end RvcOrchestrator.Foundation

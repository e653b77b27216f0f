import Mathlib.Tactic.Common

/-! # Lines of a stream

A separator ends each line. What follows the last one is a line that is not finished.
-/

namespace RvcOrchestrator.Foundation

variable {Item : Type}

/-- The finished lines, without their separators, and the unfinished one. -/
def cutLines [DecidableEq Item] (separator : Item) : List Item → List (List Item) × List Item
  | [] => ([], [])
  | item :: stream =>
      let after := cutLines separator stream
      if item = separator then ([] :: after.1, after.2)
      else
        match after.1 with
        | [] => ([], item :: after.2)
        | line :: lines => ((item :: line) :: lines, after.2)

/-- A stream is one unfinished line, or its first line is finished. -/
theorem unfinished_or_line (separator : Item) (stream : List Item) :
    separator ∉ stream ∨ ∃ line rest, stream = line ++ separator :: rest ∧ separator ∉ line := by
  rcases em (separator ∈ stream) with member | absent
  · rcases List.eq_append_cons_of_mem member with ⟨line, rest, rfl, plain⟩
    exact .inr ⟨line, rest, rfl, plain⟩
  · exact .inl absent

/-- Lines one after the other, the last one perhaps unfinished. -/
theorem lines_induction {motive : List Item → Prop} (separator : Item)
    (unfinished : ∀ stream, separator ∉ stream → motive stream)
    (line : ∀ line rest, separator ∉ line → motive rest → motive (line ++ separator :: rest))
    (stream : List Item) : motive stream := by
  induction length : stream.length using Nat.strongRecOn generalizing stream with
  | _ size induction =>
      rcases unfinished_or_line separator stream with plain | ⟨first, rest, rfl, plain⟩
      · exact unfinished stream plain
      · apply line first rest plain (induction rest.length _ rest rfl)
        rw [← length, List.length_append, List.length_cons]
        omega

variable [DecidableEq Item] {separator : Item}

theorem cutLines_separator (stream : List Item) :
    cutLines separator (separator :: stream) =
      ([] :: (cutLines separator stream).1, (cutLines separator stream).2) := by
  exact if_pos rfl

/-- A finished line does not depend on what follows it. -/
theorem cutLines_line {line : List Item} (plain : separator ∉ line) (stream : List Item) :
    cutLines separator (line ++ separator :: stream) =
      (line :: (cutLines separator stream).1, (cutLines separator stream).2) := by
  induction line with
  | nil => exact cutLines_separator stream
  | cons item line induction =>
      rw [List.mem_cons, not_or] at plain
      rw [List.cons_append, cutLines, induction plain.2]
      exact if_neg (Ne.symm plain.1)

theorem cutLines_unfinished {stream : List Item} (plain : separator ∉ stream) :
    cutLines separator stream = ([], stream) := by
  induction stream with
  | nil => rfl
  | cons item stream induction =>
      rw [List.mem_cons, not_or] at plain
      rw [cutLines, induction plain.2]
      exact if_neg (Ne.symm plain.1)

theorem not_mem_unfinished (stream : List Item) :
    separator ∉ (cutLines separator stream).2 := by
  induction stream using lines_induction separator with
  | unfinished stream plain => rwa [cutLines_unfinished plain]
  | line line rest plain induction => rwa [cutLines_line plain]

/-- What comes later continues the unfinished line. -/
theorem cutLines_append (left right : List Item) :
    cutLines separator (left ++ right) =
      ((cutLines separator left).1 ++
          (cutLines separator ((cutLines separator left).2 ++ right)).1,
        (cutLines separator ((cutLines separator left).2 ++ right)).2) := by
  induction left using lines_induction separator with
  | unfinished left plain => rw [cutLines_unfinished plain, List.nil_append]
  | line line rest plain induction =>
      rw [List.append_assoc, List.cons_append, cutLines_line plain, induction, cutLines_line plain]
      rfl

theorem joined_cutLines (stream : List Item) :
    ((cutLines separator stream).1.flatMap fun line => line ++ [separator]) ++
      (cutLines separator stream).2 = stream := by
  induction stream using lines_induction separator with
  | unfinished stream plain => rw [cutLines_unfinished plain]; rfl
  | line line rest plain induction =>
      rw [cutLines_line plain, List.flatMap_cons, List.append_assoc, induction, List.append_assoc]
      rfl

end RvcOrchestrator.Foundation

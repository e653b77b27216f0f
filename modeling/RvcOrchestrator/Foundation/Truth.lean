import Mathlib.Logic.Basic

/-! # Conditions of a query

A comparison with a value that is not there is neither true nor false, and a query selects
the rows for which its condition is true.
-/

namespace RvcOrchestrator.Foundation

/-- What a condition of a query comes to: `none` where it is unknown. -/
abbrev Truth := Option Bool

namespace Truth

def and : Truth → Truth → Truth
  | some false, _ => some false
  | _, some false => some false
  | some true, some true => some true
  | _, _ => none

def or : Truth → Truth → Truth
  | some true, _ => some true
  | _, some true => some true
  | some false, some false => some false
  | _, _ => none

def all : List Truth → Truth
  | [] => some true
  | truth :: truths => truth.and (all truths)

def any : List Truth → Truth
  | [] => some false
  | truth :: truths => truth.or (any truths)

section

variable {Value : Type} (column : Option Value)

def isNull : Truth := some column.isNone

def isNotNull : Truth := some column.isSome

def compare (Relation : Value → Prop) [DecidablePred Relation] : Truth :=
  column.map fun value => decide (Relation value)

end

def equal {Value : Type} [DecidableEq Value] (left right : Option Value) : Truth :=
  left.bind fun first => right.map fun second => decide (first = second)

def Selects (truth : Truth) : Prop := truth = some true

instance : DecidablePred Selects := fun truth => inferInstanceAs (Decidable (truth = some true))

variable {left right : Truth}

@[simp] theorem selects_and : (left.and right).Selects ↔ left.Selects ∧ right.Selects := by
  rcases left with _ | (_ | _) <;> rcases right with _ | (_ | _) <;> simp [and, Selects]

@[simp] theorem selects_or : (left.or right).Selects ↔ left.Selects ∨ right.Selects := by
  rcases left with _ | (_ | _) <;> rcases right with _ | (_ | _) <;> simp [or, Selects]

@[simp] theorem selects_all_nil : (all []).Selects := rfl

@[simp] theorem selects_all_cons {truth : Truth} {truths : List Truth} :
    (all (truth :: truths)).Selects ↔ truth.Selects ∧ (all truths).Selects := selects_and

@[simp] theorem selects_any_nil : ¬(any []).Selects := by simp [any, Selects]

@[simp] theorem selects_any_cons {truth : Truth} {truths : List Truth} :
    (any (truth :: truths)).Selects ↔ truth.Selects ∨ (any truths).Selects := selects_or

section

variable {Value : Type} {column : Option Value}

@[simp] theorem selects_isNull : (isNull column).Selects ↔ column = none := by
  cases column <;> simp [isNull, Selects]

@[simp] theorem selects_isNotNull : (isNotNull column).Selects ↔ ∃ value, column = some value := by
  cases column <;> simp [isNotNull, Selects]

@[simp] theorem selects_compare {Relation : Value → Prop} [DecidablePred Relation] :
    (compare column Relation).Selects ↔ ∃ value, column = some value ∧ Relation value := by
  cases column <;> simp [compare, Selects]

@[simp] theorem selects_equal [DecidableEq Value] {other : Option Value} :
    (equal column other).Selects ↔ ∃ value, column = some value ∧ other = some value := by
  cases column <;> cases other <;> simp [equal, Selects, eq_comm]

end

end Truth

end RvcOrchestrator.Foundation

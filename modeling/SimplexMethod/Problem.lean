import SimplexMethod.Scalar

/-!
# Linear programs

A linear program asks for the least or greatest value of a linear objective over the non-negative
points that satisfy a list of linear constraints.

## Main definitions

* `Relation`, `Constraint`: one row of a problem
* `LinearProgram`: sense, objective and constraints
* `Constraint.normalized`: the same row with a right-hand side that is not negative
-/

namespace SimplexMethod

/-- How the left-hand side of a constraint compares with its right-hand side. -/
inductive Relation where
  | atMost
  | atLeast
  | equal
deriving DecidableEq

namespace Relation

/-- The relation between both sides after a change of their signs. -/
def flipped : Relation → Relation
  | atMost => atLeast
  | atLeast => atMost
  | equal => equal

/-- The relation that allows a strict comparison together with equality. -/
def ofOrdering : Ordering → Relation
  | .lt => atMost
  | .eq => equal
  | .gt => atLeast

/-- The sign of a relation. -/
def text : Relation → String
  | atMost => "<="
  | atLeast => ">="
  | equal => "="

@[simp] theorem flipped_flipped (relation : Relation) : relation.flipped.flipped = relation := by
  cases relation <;> rfl

end Relation

/-- Whether the objective is to be made small or large. -/
inductive Sense where
  | minimize
  | maximize
deriving DecidableEq

/-- A row `coefficients * x  relation  rhs`, with one coefficient per decision variable. -/
structure Constraint (α : Type) where
  coefficients : List α
  relation : Relation
  rhs : α

/-- A linear program over non-negative decision variables, one per coefficient of the objective. -/
structure LinearProgram (α : Type) where
  /-- Appears in texts only. -/
  name : String := "lp_simplex_problem"
  sense : Sense
  objective : List α
  constraints : List (Constraint α) := []

variable {α : Type}

/-- The number of decision variables. -/
def LinearProgram.numVariables (problem : LinearProgram α) : Nat := problem.objective.length

namespace Constraint

variable [Scalar α]

/-- Both sides with their signs changed. -/
def negated (constraint : Constraint α) : Constraint α where
  coefficients := constraint.coefficients.map (- ·)
  relation := constraint.relation.flipped
  rhs := -constraint.rhs

/-- The constraint itself, or its negation if its right-hand side is negative. -/
def normalized (constraint : Constraint α) : Constraint α :=
  if constraint.rhs < 0 then constraint.negated else constraint

end Constraint

end SimplexMethod

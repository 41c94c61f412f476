import SimplexMethod.Tolerance

/-!
# Pricing

A negative cell of the objective row marks a column that improves the objective when it enters the
basis. The pivot rule chooses among these columns.
-/

namespace SimplexMethod

/-- How the entering column is chosen. -/
inductive PivotRule where
  /-- The most negative cell, and the first of equal ones. -/
  | dantzig
  /-- The first negative cell. -/
  | bland
deriving DecidableEq

/-- The name of a rule. -/
def PivotRule.name : PivotRule → String
  | dantzig => "Dantzig"
  | bland => "Bland"

variable {α : Type} [Scalar α]

/-- The negative cells, each with the index of its column. -/
def improvingColumns (cells : List α) (tolerance : α) : List (α × Nat) :=
  cells.zipIdx.filter fun entry => isNegative entry.1 tolerance

/-- The least cell so far, after one more has been seen. Of equal cells the earlier one stays. -/
def keepLeast (best : Option (α × Nat)) (entry : α × Nat) : Option (α × Nat) :=
  match best with
  | some least => if least.1 ≤ entry.1 then some least else some entry
  | none => some entry

/-- The column that enters the basis, and none if no cell is negative. The right-hand side, and any
column that may not enter, are left out of `cells`. -/
def PivotRule.enteringColumn (rule : PivotRule) (cells : List α) (tolerance : α) : Option Nat :=
  match rule with
  | dantzig => ((improvingColumns cells tolerance).foldl keepLeast none).map Prod.snd
  | bland => (improvingColumns cells tolerance).head?.map Prod.snd

end SimplexMethod

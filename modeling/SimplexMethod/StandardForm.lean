import SimplexMethod.Problem.Defect
import SimplexMethod.Tableau

/-!
# Standard form

Every constraint of a problem becomes an equation with a right-hand side that is not negative. A
`<=` row gets a slack column, which is its first basic column. A `>=` row gets a surplus column and
an `=` row none; both start with an artificial column in the basis. The columns are the decision
variables, then slack and surplus columns in the order of the rows, then artificial columns in the
order of the rows. The objective of a standard form is always to be made large.

## Main definitions

* `LinearProgram.standardColumns`: the columns in their order
* `Constraint.entry`: the cell of a row in a column
* `LinearProgram.standardTableau`: the first tableau, with an empty objective row
* `StandardForm.build`: the standard form of a problem without defects
-/

namespace SimplexMethod

namespace Relation

/-- The slack or surplus column of a row. -/
def inequalityColumn? (row : Nat) : Relation → Option Column
  | atMost => some (.slack row)
  | atLeast => some (.surplus row)
  | equal => none

/-- The artificial column of a row. -/
def artificialColumn? (row : Nat) : Relation → Option Column
  | atMost => none
  | atLeast => some (.artificial row)
  | equal => some (.artificial row)

/-- The column of a row that starts in the basis. -/
def basicColumn (row : Nat) : Relation → Column
  | atMost => .slack row
  | atLeast => .artificial row
  | equal => .artificial row

end Relation

variable {α : Type} [Scalar α]

namespace Constraint

/-- The cell of a column in the row with number `row`. -/
def entry (constraint : Constraint α) (row : Nat) : Column → α
  | .decision index => constraint.coefficients.getD index 0
  | .slack owner => if owner = row then 1 else 0
  | .surplus owner => if owner = row then -1 else 0
  | .artificial owner => if owner = row then 1 else 0

/-- All cells of a row, its right-hand side last. -/
def cells (constraint : Constraint α) (row : Nat) (columns : List Column) : Row α :=
  columns.map (constraint.entry row) ++ [constraint.rhs]

end Constraint

namespace LinearProgram

/-- The constraints with right-hand sides that are not negative, each with the number of its row. -/
def normalizedRows (problem : LinearProgram α) : List (Constraint α × Nat) :=
  (problem.constraints.map Constraint.normalized).zipIdx 1

/-- One column per decision variable. -/
def decisionColumns (problem : LinearProgram α) : List Column :=
  (List.range problem.numVariables).map Column.decision

/-- The slack and surplus columns in the order of their rows. -/
def inequalityColumns (problem : LinearProgram α) : List Column :=
  problem.normalizedRows.filterMap fun entry => entry.1.relation.inequalityColumn? entry.2

/-- The artificial columns in the order of their rows. -/
def artificialColumns (problem : LinearProgram α) : List Column :=
  problem.normalizedRows.filterMap fun entry => entry.1.relation.artificialColumn? entry.2

/-- All columns of the standard form. -/
def standardColumns (problem : LinearProgram α) : List Column :=
  problem.decisionColumns ++ problem.inequalityColumns ++ problem.artificialColumns

/-- The column that starts in the basis of a row is among the columns. -/
theorem basicColumn_mem_standardColumns {problem : LinearProgram α}
    {entry : Constraint α × Nat} (member : entry ∈ problem.normalizedRows) :
    entry.1.relation.basicColumn entry.2 ∈ problem.standardColumns := by
  simp only [standardColumns, List.mem_append, inequalityColumns, artificialColumns,
    List.mem_filterMap]
  cases relation : entry.1.relation with
  | atMost => exact .inl (.inr ⟨entry, member, by simp [relation, Relation.inequalityColumn?,
      Relation.basicColumn]⟩)
  | atLeast => exact .inr ⟨entry, member, by simp [relation, Relation.artificialColumn?,
      Relation.basicColumn]⟩
  | equal => exact .inr ⟨entry, member, by simp [relation, Relation.artificialColumn?,
      Relation.basicColumn]⟩

/-- The first tableau of a problem. Its objective row is empty. -/
def standardTableau (problem : LinearProgram α) : Tableau α where
  columns := problem.standardColumns
  rows :=
    List.replicate (problem.standardColumns.length + 1) 0 ::
      problem.normalizedRows.map fun entry => entry.1.cells entry.2 problem.standardColumns
  basis := problem.normalizedRows.map fun entry =>
    problem.standardColumns.idxOf (entry.1.relation.basicColumn entry.2)
  length_rows := by simp
  length_of_mem_rows := by
    intro cells member
    rcases List.mem_cons.1 member with rfl | row
    · simp
    · obtain ⟨entry, _, rfl⟩ := List.mem_map.1 row
      simp [Constraint.cells]
  lt_of_mem_basis := by
    intro col member
    obtain ⟨entry, entry_mem, rfl⟩ := List.mem_map.1 member
    exact List.idxOf_lt_length_iff.2 (basicColumn_mem_standardColumns entry_mem)

end LinearProgram

/-- A problem in standard form. -/
structure StandardForm (α : Type) where
  tableau : Tableau α
  numDecision : Nat
  /-- The number of columns that are not artificial, which come first. -/
  firstArtificial : Nat
  /-- The objective to be made large, one coefficient per decision variable. -/
  costs : List α
  /-- Whether the objective has the sign opposite to that of the problem. -/
  negated : Bool

namespace StandardForm

/-- The standard form of a problem. -/
def ofProblem (problem : LinearProgram α) : StandardForm α where
  tableau := problem.standardTableau
  numDecision := problem.numVariables
  firstArtificial := problem.numVariables + problem.inequalityColumns.length
  costs :=
    match problem.sense with
    | .minimize => problem.objective.map (- ·)
    | .maximize => problem.objective
  negated := problem.sense = .minimize

/-- The standard form of a problem without defects. -/
def build (problem : LinearProgram α) : Except (Defect α) (StandardForm α) :=
  match problem.defect? with
  | some defect => .error defect
  | none => .ok (ofProblem problem)

/-- The number of artificial columns. -/
def numArtificial (form : StandardForm α) : Nat := form.tableau.numColumns - form.firstArtificial

/-- Whether some row starts without a basic column of its own. -/
def hasArtificials (form : StandardForm α) : Bool :=
  decide (form.firstArtificial < form.tableau.numColumns)

/-- The objective of the first phase: minus the sum of the artificial variables. -/
def phaseOneCosts (form : StandardForm α) : List α :=
  form.tableau.columns.map fun column => if column.isArtificial then -1 else 0

end StandardForm

end SimplexMethod

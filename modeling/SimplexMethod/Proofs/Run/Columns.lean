import SimplexMethod.Proofs.DriveOut
import SimplexMethod.Proofs.Pricing
import SimplexMethod.Proofs.Run.Creation
import SimplexMethod.Proofs.Run.Moves
import SimplexMethod.Proofs.StandardForm.Layout

/-!
# The columns of a run

Pivots and objectives change cells and basic columns only, so every tableau of a run has the columns
of the standard form. Whether a column is artificial, and whether it may enter, does not change
either. Nothing here depends on the kind of numbers.

## Main definitions

* `Tableau.IsArtificial`: a column of a tableau is artificial

## Main results

* `Run.columns_after`: all tableaux of a run have the same columns
* `Run.isArtificial_iff`: the artificial columns of a run are those from the first one on
* `Run.lt_of_enteringColumn`: a column that enters is an eligible column of the tableau
-/

namespace SimplexMethod

variable {α : Type}

/-- The column is an artificial one. -/
def Tableau.IsArtificial (tableau : Tableau α) (col : Nat) : Prop :=
  ∃ column, tableau.columns[col]? = some column ∧ column.isArtificial = true

variable [Scalar α]

theorem Tableau.columns_driveOut (tableau : Tableau α) (firstArtificial : Nat) (tolerance : α) :
    (tableau.driveOut firstArtificial tolerance).tableau.columns = tableau.columns := by
  refine driveOutRows_induction (P := fun driven => driven.columns = tableau.columns)
    (fun before after row col same _ _ _ made => ?_) rfl
  obtain ⟨-, _, _, -, rfl⟩ := pivot_eq_ok_iff_isUsablePivot.1 made
  exact same

namespace Run

variable {problem : LinearProgram α} {config : Config α} {run next : Run α}
  {failure : Option (PivotError α)}

theorem Move.columns_eq (move : run.Move next failure) :
    next.tableau.columns = run.tableau.columns := by
  cases move with
  | pivot phase row col after state enters below leaves made =>
    obtain ⟨-, _, _, -, rfl⟩ := Tableau.pivot_eq_ok_iff_isUsablePivot.1 made
    rfl
  | driveOut | refuseDriveOut => exact run.tableau.columns_driveOut _ _
  | _ => rfl

/-- All tableaux of a run have the same columns. -/
theorem columns_after (run : Run α) (steps : Nat) :
    (run.after steps).tableau.columns = run.tableau.columns := by
  induction steps with
  | zero => rfl
  | succ steps ih => rw [(run.move_after steps).columns_eq, ih]

theorem columns_of_create (created : Run.create problem config = .ok run) (steps : Nat) :
    (run.after steps).tableau.columns = problem.standardColumns := by
  rw [columns_after]
  obtain ⟨-, -, rfl⟩ := create_eq_ok_iff.1 created
  rfl

/-- The columns that are not artificial come first. -/
theorem firstArtificial_le_numColumns (created : Run.create problem config = .ok run)
    (steps : Nat) : run.form.firstArtificial ≤ (run.after steps).tableau.numColumns := by
  rw [form_of_create created, Tableau.numColumns, columns_of_create created]
  exact problem.firstArtificial_le

/-- The artificial columns of a run are those from the first one on. -/
theorem isArtificial_iff (created : Run.create problem config = .ok run) {steps col : Nat}
    (inside : col < (run.after steps).tableau.numColumns) :
    (run.after steps).tableau.IsArtificial col ↔ run.form.firstArtificial ≤ col := by
  rw [Tableau.numColumns, columns_of_create created] at inside
  rw [Tableau.IsArtificial, columns_of_create created, form_of_create created,
    ← problem.isArtificial_iff inside, List.getElem?_eq_getElem inside]
  simp

/-- The columns of a run that are not artificial are those before the first artificial one. -/
theorem lt_firstArtificial_iff (created : Run.create problem config = .ok run) {steps col : Nat} :
    col < run.form.firstArtificial ↔ col < (run.after steps).tableau.numColumns ∧
      ¬(run.after steps).tableau.IsArtificial col := by
  have bounded := firstArtificial_le_numColumns created steps
  constructor
  · intro early
    have inside := early.trans_le bounded
    exact ⟨inside, by rwa [isArtificial_iff created inside, not_le]⟩
  · rintro ⟨inside, regular⟩
    rwa [isArtificial_iff created inside, not_le] at regular

/-- A column that enters is an eligible column of the tableau. -/
theorem lt_of_enteringColumn {phase : Phase} {col : Nat}
    (enters : run.enteringColumn phase = some col) :
    col < run.numEligible phase ∧ col < run.tableau.numColumns := by
  obtain ⟨value, at_col, -⟩ := PivotRule.isNegative_of_enteringColumn_eq_some enters
  have present := (List.getElem?_eq_some_iff.1 at_col).1
  rw [List.length_take, Tableau.objectiveCells, List.length_take] at present
  omega

end Run

end SimplexMethod

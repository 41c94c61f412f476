import SimplexMethod.Proofs.Run.Checked
import SimplexMethod.Proofs.Run.Comparisons
import SimplexMethod.Proofs.Sign

/-!
# How a solve fails

An unusable configuration and a malformed problem are refused before anything is computed. Apart
from that a solve can only fail on a pivot cell that is infinite or undefined: both the ratio test
and driving out ask for cells inside of the tableau that are not zero to tolerance. Rational numbers
are never infinite, so in exact arithmetic there is always a solution.

## Main definitions

* `PivotError.IsNotFinite`: a pivot was refused because its cell is infinite or undefined

## Main results

* `Run.isNotFinite_of_failure`: no other step fails
* `solve_fails_only`: all ways for a solve to fail
-/

namespace SimplexMethod

variable {α : Type} [Scalar α]

/-- The pivot was refused because its cell is infinite or undefined, and not because it is zero to
tolerance. -/
def PivotError.IsNotFinite (error : PivotError α) (tolerance : α) : Prop :=
  ∃ pivot, error = .degenerate pivot ∧ Scalar.isFinite pivot.value = false ∧
    isZero pivot.value tolerance = false

/-! ## Pivots that are refused -/

namespace Tableau

variable {tableau : Tableau α} {row col : Nat} {tolerance : α} {error : PivotError α}

/-- A pivot on a cell inside of the tableau that is not zero is refused only because the cell is not
finite. -/
theorem isNotFinite_of_pivot (row_mem : row ∈ tableau.constraintIndices)
    (col_lt : col < tableau.numColumns) (nonzero : isZero (tableau.cell row col) tolerance = false)
    (refused : tableau.pivot row col tolerance = .error error) : error.IsNotFinite tolerance := by
  obtain ⟨positive, row_lt⟩ := mem_constraintIndices_iff_lt_numRows.1 row_mem
  rw [pivot, dif_pos ⟨positive, row_lt, col_lt⟩, isUsablePivot, nonzero, Bool.not_false,
    Bool.true_and] at refused
  split at refused
  · cases refused
  · rename_i infinite
    cases refused
    exact ⟨_, rfl, Bool.eq_false_iff.2 infinite, nonzero⟩

theorem isNotFinite_of_driveOutRows {firstArtificial : Nat} {rows : List Nat}
    (bounded : firstArtificial ≤ tableau.numColumns)
    (fails : (driveOutRows firstArtificial tolerance rows tableau).failure = some error) :
    error.IsNotFinite tolerance := by
  induction rows generalizing tableau with
  | nil => cases fails
  | cons row rows ih =>
    unfold driveOutRows at fails
    split at fails
    · exact ih bounded fails
    · rename_i artificial basic
      obtain ⟨row_mem, -, -⟩ := basicArtificial?_eq_some_iff.1 basic
      split at fails
      · exact ih bounded fails
      · rename_i col found
        obtain ⟨early, nonzero⟩ := replacement?_eq_some found
        dsimp only at fails
        split at fails
        · rename_i refusal refused
          cases fails
          exact isNotFinite_of_pivot row_mem (early.trans_le bounded) nonzero refused
        · rename_i next made
          refine ih ?_ fails
          obtain ⟨-, _, _, -, rfl⟩ := pivot_eq_ok_iff_isUsablePivot.1 made
          exact bounded

end Tableau

/-- A number above the tolerance is not zero to tolerance. -/
theorem isZero_eq_false_of_isPositive [LawfulSign α] {value tolerance : α}
    (positive : isPositive value tolerance = true) : isZero value tolerance = false := by
  rw [isPositive, decide_eq_true_iff] at positive
  rw [isZero, decide_eq_false_iff_not]
  exact LawfulSign.not_abs_le positive

/-! ## Steps that fail -/

/-- A step fails only on a pivot cell that is infinite or undefined. -/
theorem Run.isNotFinite_of_failure [LawfulSign α] {run : Run α} {error : PivotError α}
    (bounded : run.form.firstArtificial ≤ run.tableau.numColumns)
    (failure : run.step.failure = some error) : error.IsNotFinite run.config.tolerance := by
  have move := run.move_step
  rw [failure] at move
  generalize run.step.run = next at move
  cases move with
  | refusePivot phase row col _ state enters leaves refused =>
    obtain ⟨row_mem, positive⟩ := Tableau.isPositive_of_leavingRow leaves
    exact Tableau.isNotFinite_of_pivot row_mem (lt_of_enteringColumn enters).2
      (isZero_eq_false_of_isPositive positive) refused
  | refuseDriveOut _ state priced accepted fails =>
    exact Tableau.isNotFinite_of_driveOutRows bounded fails

/-! ## All ways to fail -/

/-- An unusable configuration is refused whatever the problem is, and a malformed problem with its
own defect. Otherwise there is a run; its steps, and the solution that is read off in the end, ask
for nothing that the tableau does not have, and a step fails only on a pivot cell that is infinite
or undefined, and so does the solve. In exact arithmetic a usable configuration and a problem
without defects have a solution. -/
theorem solve_fails_only :
    (∀ {α : Type} [Scalar α] [LawfulSign α] (problem : LinearProgram α) (config : Config α),
      (∀ fault, config.validate = .error fault →
        solve problem config = .error (.invalidConfig fault)) ∧
      (config.validate = .ok () → ∀ defect, problem.validate = .error defect →
        solve problem config = .error (.malformed defect)) ∧
      (config.validate = .ok () → problem.validate = .ok () →
        ∃ run, Run.create problem config = .ok run ∧
          (∀ steps, (run.after steps).checkedStep = .ok (run.after steps).step ∧
            (∀ status, (run.after steps).checkedSolutionFor status =
              .ok ((run.after steps).solutionFor status)) ∧
            ∀ error, (run.after steps).step.failure = some error →
              error.IsNotFinite config.tolerance) ∧
          ∀ error, solve problem config = .error error →
            ∃ refusal, error = .pivot refusal ∧ refusal.IsNotFinite config.tolerance)) ∧
    ∀ (problem : LinearProgram Rat) (config : Config Rat), config.validate = .ok () →
      problem.validate = .ok () → ∃ solution, solve problem config = .ok solution := by
  constructor
  · intro α _ _ problem config
    refine ⟨fun fault invalid => ?_, fun usable defect malformed => ?_, fun usable wellFormed => ?_⟩
    · refine solve_eq_error_of_create ?_
      rw [Run.create, Config.validate_eq_error_iff.1 invalid]
    · refine solve_eq_error_of_create ?_
      rw [Run.create, Config.validate_eq_ok_iff.1 usable]
      simp only [StandardForm.build, LinearProgram.validate_eq_error_iff.1 malformed]
    · have created := Run.create_eq_ok_initial (Config.validate_eq_ok_iff.1 usable)
        (LinearProgram.validate_eq_ok_iff.1 wellFormed)
      have fails {steps : Nat} {error : PivotError α}
          (failure : ((Run.initial problem config).after steps).step.failure = some error) :
          error.IsNotFinite config.tolerance := by
        have bounded := Run.firstArtificial_le_numColumns created steps
        rw [← Run.after_form _ steps] at bounded
        have infinite := Run.isNotFinite_of_failure bounded failure
        rwa [Run.after_config] at infinite
      refine ⟨_, created, fun steps => ⟨Run.checkedStep_eq ?_, Run.checkedSolutionFor_eq,
        fun error => fails⟩, ?_⟩
      · rw [Run.after_form]
        exact Run.firstArtificial_le_numColumns created steps
      · intro error failed
        obtain ⟨steps, last, outcome, ends, solved⟩ := exists_endsAfter_of_create created
        rw [solved] at failed
        cases outcome with
        | ok solution => cases failed
        | error refusal =>
          cases failed
          obtain ⟨k, failure⟩ := ends.exists_failure rfl
          exact ⟨refusal, rfl, fails failure⟩
  · intro problem config usable wellFormed
    exact exists_solve_eq_ok (Run.create_eq_ok_initial (Config.validate_eq_ok_iff.1 usable)
      (LinearProgram.validate_eq_ok_iff.1 wellFormed))

/-- Nothing can be computed with a tolerance of zero, nor without an objective; a pivot on a cell
that has become infinite is refused; and a problem with a redundant row is solved. -/
theorem solve_fails_only_overflowingProblem :
    solve overflowingProblem { Config.standard with tolerance := 0 } =
        .error (.invalidConfig (.tolerance 0)) ∧
      solve { overflowingProblem with objective := [] } .standard =
        .error (.malformed .emptyObjective) ∧
      (∃ refusal, solve overflowingProblem .standard = .error (.pivot refusal) ∧
        refusal.IsNotFinite Config.standard.tolerance) ∧
      ∃ solution, solve redundantProblem (thousandth .dantzig) = .ok solution := by
  have usable : Config.standard.validate = .ok () := Config.validate_eq_ok_iff.2 (by decide +kernel)
  have wellFormed : overflowingProblem.validate = .ok () :=
    LinearProgram.validate_eq_ok_iff.2 (by decide +kernel)
  refine ⟨(solve_fails_only.1 _ _).1 _ rfl, (solve_fails_only.1 _ _).2.1 usable _ rfl, ?_,
    solve_fails_only.2 _ _ (Config.validate_eq_ok_iff.2 (by decide +kernel))
      (LinearProgram.validate_eq_ok_iff.2 (by decide +kernel))⟩
  have failed : (solve overflowingProblem .standard).isOk = false := by decide +kernel
  cases outcome : solve overflowingProblem .standard with
  | ok solution => simp [outcome, Except.isOk, Except.toBool] at failed
  | error error =>
    obtain ⟨_, _, _, only⟩ :=
      (solve_fails_only.1 overflowingProblem .standard).2.2 usable wellFormed
    obtain ⟨refusal, rfl, infinite⟩ := only error outcome
    exact ⟨refusal, rfl, infinite⟩

end SimplexMethod

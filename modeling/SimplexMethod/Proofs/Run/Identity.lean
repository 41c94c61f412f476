import SimplexMethod.Proofs.Run.Reach
import SimplexMethod.Proofs.Tableau.Identity

/-!
# The basis in the course of a run

Every tableau of a run is reached by pivots and new objectives from the standard form, whose basic
columns form an identity that no arithmetic has touched. So as long as the cells of a tableau are
finite, its basic columns form an identity, and the basis can be read in both directions. This holds
of rational and of double-precision numbers, and after steps that fail as well.

## Main results

* `LinearProgram.keepsIdentity_standardTableau`: the identity of the first tableau
* `Run.identity_of_isFinite`: the identity and the basis of a finite tableau of a run
-/

namespace SimplexMethod

variable {α : Type} [Scalar α] [LawfulZero α] {problem : LinearProgram α} {config : Config α}
  {run : Run α}

/-- The ones and zeros of the first tableau are those of the slack and artificial columns. -/
theorem LinearProgram.keepsIdentity_standardTableau (problem : LinearProgram α) :
    problem.standardTableau.KeepsIdentity := by
  intro _ i _ _ row row_mem
  rw [cell_basicColumn_standardTableau row_mem]
  split
  · rfl
  · exact LawfulZero.zero_beq_zero

namespace Run

/-- If the cells of a tableau of a run are finite, there is a basic column for each constraint, no
column is basic twice, and every basic column reads exactly one in its own row and exactly zero, of
either sign, in every other row, the objective row included. So the basis is an identity for the
least tolerance there is, and it can be read in both directions. -/
theorem identity_of_isFinite (created : Run.create problem config = .ok run) {steps : Nat}
    (finite : (run.after steps).tableau.IsFinite) :
    let tableau := (run.after steps).tableau
    tableau.basis.length = tableau.constraintRows.length ∧
    tableau.basis.length = problem.constraints.length ∧
    tableau.basis.Nodup ∧
    (∀ col ∈ tableau.basis, col < tableau.numColumns) ∧
    (∀ row ∈ tableau.constraintIndices, ∀ i < tableau.numRows,
      if i = row then tableau.cell i (tableau.basicColumn row) = 1
      else tableau.cell i (tableau.basicColumn row) == 0) ∧
    tableau.basisIsIdentity 0 = true ∧
    (∀ row col, tableau.basicColumn? row = some col ↔ tableau.basicRow? col = some row) ∧
    tableau.catalogue.countP (·.basic) = problem.constraints.length := by
  have reached := reaches_after created steps
  obtain ⟨-, -, rfl⟩ := create_eq_ok_iff.1 created
  have count := reached.numConstraints_eq
  have keeps := reached.keepsIdentity problem.keepsIdentity_standardTableau
  generalize ((initial problem config).after steps).tableau = tableau at finite keeps count ⊢
  have identity (i : Nat) (inside : i < tableau.numRows) : tableau.ReadsIdentity i :=
    keeps.readsIdentity finite inside
  have constraints : tableau.numConstraints = problem.constraints.length := by
    rw [count]
    exact LinearProgram.numConstraints_standardTableau.trans
      (by simp [LinearProgram.normalizedRows])
  have nodup := Tableau.nodup_basis_of_readsIdentity identity
  refine ⟨?_, constraints, nodup, tableau.lt_of_mem_basis,
    fun row row_mem i inside => identity i inside row row_mem,
    Tableau.basisIsIdentity_of_readsIdentity identity,
    fun _ _ => Tableau.basicColumn?_eq_some_iff_basicRow? nodup,
    (Tableau.countP_basic_catalogue nodup).trans constraints⟩
  rw [Tableau.constraintRows, List.length_tail, tableau.length_rows, Nat.add_sub_cancel]

end Run

/-- Coefficients that double-precision numbers do not hold exactly, in two equations that say the
same. -/
def roundedProblem : LinearProgram Float where
  sense := .minimize
  objective := [1, -2]
  constraints := [⟨[0.1, 0.2], .equal, 0.3⟩, ⟨[0.2, 0.4], .equal, 0.6⟩, ⟨[1, -1], .atLeast, -1⟩]

/-- The last tableau of a run with rounding and of a run without, both through two phases. -/
theorem identity_roundedProblem :
    (∃ run, Run.create roundedProblem .standard = .ok run ∧
      (run.after 5).state = .finished .optimal ∧ (run.after 5).tableau.IsFinite ∧
      (run.after 5).tableau.basis.Nodup ∧ (run.after 5).tableau.basisIsIdentity 0 = true ∧
      (run.after 5).tableau.catalogue.countP (·.basic) = 3) ∧
    Run.create redundantProblem (thousandth .bland) = .ok (redundantRun .bland) ∧
      ((redundantRun .bland).after 5).tableau.basisIsIdentity 0 = true := by
  have created : Run.create roundedProblem .standard = .ok (.initial roundedProblem .standard) :=
    Run.create_eq_ok_initial (by decide +kernel) (by decide +kernel)
  have finite : ((Run.initial roundedProblem .standard).after 5).tableau.IsFinite := by
    decide +kernel
  obtain ⟨-, -, nodup, -, -, identity, -, count⟩ := Run.identity_of_isFinite created finite
  have exact_ := create_redundantRun .bland
  have exact_finite : ((redundantRun .bland).after 5).tableau.IsFinite := by decide +kernel
  obtain ⟨-, -, -, -, -, exact_identity, -⟩ :=
    Run.identity_of_isFinite exact_ exact_finite
  exact ⟨⟨_, created, by decide +kernel, finite, nodup, identity, count⟩, exact_, exact_identity⟩

end SimplexMethod

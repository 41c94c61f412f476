import SimplexMethod.Proofs.Run.Comparisons
import SimplexMethod.Proofs.Run.PhaseOne

/-!
# Right-hand sides of a run

The first tableau has no negative right-hand side, and a pivot on the row with the least ratio makes
none. Neither does driving out, which pivots in rows with right-hand side zero. All this depends on
two judgements that a tolerance can spoil: which row has the least ratio, where a cell may be
overlooked or two ratios be taken for equal, and whether the artificial variables are zero when the
first phase ends.

## Main definitions

* `Tableau.IsFeasible`: no constraint row has a negative right-hand side
* `Run.IsSharp`: the tolerance spoils neither of these judgements in the next step

## Main results

* `Tableau.Exchange.isFeasible_iff`: a pivot keeps a tableau feasible exactly if its row has the
  least ratio
* `Run.isFeasible_after`: the tableau stays feasible as long as the steps are sharp
* `Run.StepsSeparated.isSharp`, `Run.StepsSeparated.isFeasible_after`: separated steps are sharp
* `Run.isPrimalFeasible_after`: the check of the tableau after any number of sharp steps
-/

namespace SimplexMethod

namespace Tableau

/-- No constraint row has a negative right-hand side. -/
def IsFeasible (tableau : Tableau Rat) : Prop :=
  ∀ row ∈ tableau.constraintIndices, 0 ≤ tableau.cell row tableau.rhsIndex

theorem IsFeasible.isPrimalFeasible {tableau : Tableau Rat} {tolerance : Rat}
    (feasible : tableau.IsFeasible) (nonnegative : 0 ≤ tolerance) :
    tableau.isPrimalFeasible tolerance = true := by
  apply List.all_eq_true.2
  intro cells member
  obtain ⟨row, row_mem, rfl⟩ := mem_constraintRows.1 member
  have := feasible row row_mem
  rw [Bool.not_eq_true', ← Bool.not_eq_true, isNegative_iff, not_lt]
  exact (neg_nonpos.2 nonnegative).trans this

/-- A pivot on a positive cell makes no right-hand side negative exactly if its row has the least
ratio of all rows with a positive cell. -/
theorem Exchange.isFeasible_iff {before after : Tableau Rat} {row col : Nat}
    (exchange : before.Exchange row col after) (feasible : before.IsFeasible)
    (positive : 0 < before.cell row col) :
    after.IsFeasible ↔ ∀ other ∈ before.constraintIndices, 0 < before.cell other col →
      before.ratio col row ≤ before.ratio col other := by
  have ratio_nonneg : 0 ≤ before.ratio col row :=
    div_nonneg (feasible row exchange.row_mem) positive.le
  rw [IsFeasible, exchange.constraintIndices_eq]
  apply forall₂_congr
  intro i i_mem
  rw [show after.rhsIndex = before.rhsIndex from exchange.numColumns_eq, exchange.cell_eq]
  -- The pivot row gets its ratio, and every other row gives up a multiple of it.
  by_cases own : i = row
  · subst i
    rw [if_pos rfl]
    exact iff_of_true ratio_nonneg fun _ => le_rfl
  · rw [if_neg own, sub_nonneg]
    change before.cell i col * before.ratio col row ≤ _ ↔ _
    -- A row that limits the column can give up the least ratio; any other row gives up nothing.
    by_cases limits : 0 < before.cell i col
    · rw [mul_comm, ← le_div_iff₀ limits]
      exact ⟨fun le _ => le, fun least => least limits⟩
    · have nonpos := mul_nonpos_of_nonpos_of_nonneg (not_lt.1 limits) ratio_nonneg
      exact iff_of_true (nonpos.trans (feasible i i_mem)) fun positive => absurd positive limits

theorem IsFeasible.withObjective {tableau : Tableau Rat} (feasible : tableau.IsFeasible)
    (costs : List Rat) : (tableau.withObjective costs).IsFeasible := by
  intro row row_mem
  rw [constraintIndices_withObjective] at row_mem
  have positive := (tableau.mem_constraintIndices.1 row_mem).1
  rw [cell_withObjective (by omega)]
  exact feasible row row_mem

end Tableau

/-- The first tableau has right-hand sides that are not negative. -/
theorem LinearProgram.isFeasible_standardTableau (problem : LinearProgram Rat) :
    problem.standardTableau.IsFeasible := by
  intro row row_mem
  obtain ⟨constraint, member⟩ := exists_normalizedRow row_mem
  obtain ⟨source, -, rfl, -⟩ := exists_of_mem_normalizedRows member
  rw [cell_rhsIndex_standardTableau member]
  exact source.rhs_normalized_nonneg

namespace Run

/-- The tolerance spoils no judgement of the next step that a right-hand side depends on. -/
structure IsSharp (run : Run Rat) : Prop where
  /-- The row that leaves has the least ratio of all rows with a positive cell, those included that
  the ratio test overlooks. -/
  least (phase : Phase) (row col : Nat) (state : run.state = .iterating phase)
    (enters : run.enteringColumn phase = some col) (below : run.pivots < run.cap)
    (leaves : run.tableau.leavingRow col run.config.tolerance = some row) :
    ∀ other ∈ run.tableau.constraintIndices, 0 < run.tableau.cell other col →
      run.tableau.ratio col row ≤ run.tableau.ratio col other
  /-- The first phase does not end with a sum of artificial variables that is taken for zero. -/
  verdict (state : run.state = .iterating .one) (priced : run.enteringColumn .one = none) :
    0 ≤ run.tableau.objectiveValue ∨ run.tableau.objectiveValue < -run.config.tolerance

variable {problem : LinearProgram Rat} {config : Config Rat} {run : Run Rat}

/-! ## One step -/

/-- If a sharp verdict does not find the problem infeasible, the artificial variables are zero. -/
theorem IsSharp.artificialsAtZero (sharp : run.IsSharp) (sound : run.IsSound problem)
    (feasible : run.tableau.IsFeasible) (state : run.state = .iterating .one)
    (priced : run.enteringColumn .one = none)
    (accepted : isNegative run.tableau.objectiveValue run.config.tolerance = false) :
    run.tableau.ArtificialsAtZero run.form.firstArtificial := by
  rw [← Bool.not_eq_true, isNegative_iff] at accepted
  exact sound.artificialsAtZero state feasible ((sharp.verdict state priced).resolve_right accepted)

/-- A sharp step makes no right-hand side negative. -/
theorem IsSharp.isFeasible_step (sharp : run.IsSharp) (sound : run.IsSound problem)
    (feasible : run.tableau.IsFeasible) : run.step.run.tableau.IsFeasible := by
  have move := run.move_step
  rw [sound.failure_eq_none] at move
  generalize run.step.run = next at move
  cases move with
  | enterPhaseOne | enterPhaseTwo => exact feasible.withObjective _
  | pivot phase row col next state enters below leaves made =>
    have exchange := Tableau.exchange_of_pivot sound.tolerance_pos.le made
    exact (exchange.isFeasible_iff feasible (sound.cell_pos_of_leavingRow leaves)).2
      (sharp.least phase row col state enters below leaves)
  | driveOut state priced accepted succeeds =>
    -- Driving out pivots in rows with an artificial basic column, where right-hand sides are zero.
    have zero := sharp.artificialsAtZero sound feasible state priced accepted
    have same := (sound.driveOut (sound.prices .one state)).1.trans sound.sameSystem.symm
    apply Tableau.IsFeasible.withObjective
    intro row row_mem
    rw [same.constraintIndices_eq] at row_mem
    rw [(Tableau.cell_rhsIndex_driveOut sound.tolerance_pos.le zero row).2]
    exact feasible row row_mem
  | _ => exact feasible

/-! ## Many steps -/

/-- After any number of sharp steps no constraint row has a negative right-hand side. -/
theorem isFeasible_after (created : Run.create problem config = .ok run) {steps : Nat}
    (sharp : ∀ k < steps, (run.after k).IsSharp) : (run.after steps).tableau.IsFeasible := by
  induction steps with
  | zero =>
    obtain ⟨-, -, rfl⟩ := create_eq_ok_iff.1 created
    exact problem.isFeasible_standardTableau
  | succ steps ih =>
    have feasible := ih fun k less => sharp k (Nat.lt_succ_of_lt less)
    rw [after_succ]
    exact (sharp steps steps.lt_succ_self).isFeasible_step
      (isSound_after (isSound_of_create created) steps) feasible

namespace StepsSeparated

/-- In a separated run the row that leaves has the least ratio of all rows with a positive cell, and
of the rows with this ratio the first basic column. -/
theorem least_of_leavingRow (separated : run.StepsSeparated)
    (nonnegative : 0 ≤ run.config.tolerance) {steps : Nat} {phase : Phase} {row col : Nat}
    (state : (run.after steps).state = .iterating phase)
    (enters : (run.after steps).enteringColumn phase = some col)
    (below : (run.after steps).pivots < (run.after steps).cap)
    (leaves : (run.after steps).tableau.leavingRow col (run.after steps).config.tolerance =
      some row) :
    let tableau := (run.after steps).tableau
    ∀ other ∈ tableau.constraintIndices, 0 < tableau.cell other col →
      tableau.ratio col row < tableau.ratio col other ∨
        tableau.ratio col row = tableau.ratio col other ∧
          tableau.basicColumn row ≤ tableau.basicColumn other := by
  intro tableau other other_mem positive
  rw [after_cap] at below
  rw [after_config] at leaves
  have cell := separated.cell_of_enters state enters below other_mem
  have limits : run.config.tolerance < tableau.cell other col :=
    not_le.1 fun small => (cell.nonpos small).not_gt positive
  exact Tableau.ratio_le_of_leavingRow nonnegative
    (fun _ => separated.difference_of_enters state enters below) leaves other_mem limits

/-- Separated steps are sharp. -/
theorem isSharp (separated : run.StepsSeparated) (nonnegative : 0 ≤ run.config.tolerance)
    (steps : Nat) : (run.after steps).IsSharp where
  least phase row col state enters below leaves other other_mem positive :=
    (separated.least_of_leavingRow nonnegative state enters below leaves other other_mem
      positive).elim le_of_lt fun tie => tie.1.le
  verdict state priced := by
    rw [after_config]
    exact (le_or_gt _ _).imp_left (separated.objectiveValue state priced).nonneg

/-- In a separated run no right-hand side of a constraint row is ever negative. -/
theorem isFeasible_after (separated : run.StepsSeparated)
    (created : Run.create problem config = .ok run) (steps : Nat) :
    (run.after steps).tableau.IsFeasible :=
  Run.isFeasible_after created fun k _ =>
    separated.isSharp (isSound_of_create created).tolerance_pos.le k

end StepsSeparated

/-- In exact arithmetic all right-hand sides stay non-negative, and so the check of the tableau
succeeds, as long as the tolerance spoils none of the judgements that they depend on. -/
theorem isPrimalFeasible_after (created : Run.create problem config = .ok run) {steps : Nat}
    (sharp : ∀ k < steps, (run.after k).IsSharp) :
    (∀ row ∈ (run.after steps).tableau.constraintIndices,
      0 ≤ (run.after steps).tableau.cell row (run.after steps).tableau.rhsIndex) ∧
      (run.after steps).tableau.isPrimalFeasible config.tolerance = true := by
  have feasible := isFeasible_after created sharp
  have positive := (isSound_of_create created).tolerance_pos
  rw [config_of_create created] at positive
  exact ⟨feasible, feasible.isPrimalFeasible positive.le⟩

/-- A run through both phases, whose right-hand sides are checked at its end. -/
theorem isPrimalFeasible_redundantRun :
    (∀ k < 5, ((redundantRun .dantzig).after k).IsSharp) ∧
      ((redundantRun .dantzig).after 5).tableau.isPrimalFeasible (1 / 1000) = true := by
  have sound := isSound_of_create (create_redundantRun .dantzig)
  have sharp : ∀ k < 5, ((redundantRun .dantzig).after k).IsSharp :=
    fun k _ => (stepsSeparated_redundantRun .dantzig).isSharp sound.tolerance_pos.le k
  exact ⟨sharp, (isPrimalFeasible_after (create_redundantRun .dantzig) sharp).2⟩

end Run

/-! ## Where sharpness fails -/

/-- A problem in one variable. -/
private def oneVariable (sense : Sense) (rows : List (Rat × Relation × Rat)) :
    LinearProgram Rat where
  sense := sense
  objective := [1]
  constraints := rows.map fun row => ⟨[row.1], row.2.1, row.2.2⟩

/-- A row that limits the variable a thousandfold more than the other one, by a cell that the ratio
test overlooks. -/
def faintLimit : LinearProgram Rat :=
  oneVariable .maximize [(1, .atMost, 10 ^ 12), (1 / 10 ^ 9, .atMost, 1)]

/-- Two rows whose ratios differ by no more than the tolerance. -/
def nearTie : LinearProgram Rat :=
  oneVariable .maximize [(1, .atMost, 1 + 1 / 10 ^ 9), (1000, .atMost, 1000)]

/-- A problem without feasible points whose artificial variable is within the tolerance. -/
def faintVerdict : LinearProgram Rat :=
  oneVariable .minimize [(-1, .equal, 1 / 10 ^ 9), (-1000, .atMost, 0)]

/-- With the usual tolerance the judgement about the least ratio is spoiled by an overlooked cell
and by ratios taken for equal, and the verdict of the first phase by artificial variables taken for
zero. Each time the check of the tableau fails after the next step. -/
theorem not_isPrimalFeasible :
    (Run.create faintLimit billionth = .ok (.initial faintLimit billionth) ∧
      ((Run.initial faintLimit billionth).after 2).tableau.isPrimalFeasible billionth.tolerance =
        false) ∧
    (Run.create nearTie billionth = .ok (.initial nearTie billionth) ∧
      ((Run.initial nearTie billionth).after 2).tableau.isPrimalFeasible billionth.tolerance =
        false) ∧
    (Run.create faintVerdict billionth = .ok (.initial faintVerdict billionth) ∧
      ((Run.initial faintVerdict billionth).after 2).tableau.isPrimalFeasible
        billionth.tolerance = false) := by
  have usable : billionth.fault? = none := by decide +kernel
  refine ⟨⟨Run.create_eq_ok_initial usable (by decide +kernel), ?_⟩,
    ⟨Run.create_eq_ok_initial usable (by decide +kernel), ?_⟩,
    ⟨Run.create_eq_ok_initial usable (by decide +kernel), ?_⟩⟩ <;>
  decide +kernel

end SimplexMethod

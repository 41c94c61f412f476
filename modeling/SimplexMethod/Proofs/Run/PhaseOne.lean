import Mathlib.Algebra.Order.BigOperators.Group.Finset
import SimplexMethod.Proofs.Run.Sound
import SimplexMethod.Proofs.Tableau.Ray

/-!
# The first phase

The objective of the first phase is minus the sum of the artificial variables. So the objective row
and the rows with a basic artificial column balance: a column whose cell in the objective row is
negative has a positive sum in those rows. The ratio test looks at each of these cells alone, and
cells of at most the tolerance may add up to more than the tolerance.

## Main definitions

* `Tableau.artificialRows`: the rows with a basic artificial column

## Main results

* `Run.IsSound.cell_zero_add_sum`: the balance of a column
* `Run.IsSound.artificialsAtZero`: what the end of the first phase says about artificial columns
* `Run.phaseOne_step`: the ways out of the first phase
-/

namespace SimplexMethod

/-- The rows whose basic column is artificial. -/
def Tableau.artificialRows {α : Type} (tableau : Tableau α) (firstArtificial : Nat) : Finset Nat :=
  tableau.constraintIndices.filter fun row => firstArtificial ≤ tableau.basicColumn row

theorem Tableau.mem_artificialRows {α : Type} {tableau : Tableau α} {firstArtificial row : Nat} :
    row ∈ tableau.artificialRows firstArtificial ↔
      row ∈ tableau.constraintIndices ∧ firstArtificial ≤ tableau.basicColumn row :=
  Finset.mem_filter

/-- Numbers of at most `bound` with a sum above it are positive in two places. -/
private theorem exists_two_pos {places : Finset Nat} {value : Nat → Rat} {bound : Rat}
    (nonnegative : 0 ≤ bound) (small : ∀ i ∈ places, value i ≤ bound)
    (large : bound < ∑ i ∈ places, value i) :
    ∃ first ∈ places, ∃ second ∈ places, first ≠ second ∧ 0 < value first ∧ 0 < value second := by
  have exists_pos {part : Finset Nat} (positive : 0 < ∑ i ∈ part, value i) :
      ∃ i ∈ part, 0 < value i := by
    by_contra! nonpositive
    exact positive.not_ge (Finset.sum_nonpos nonpositive)
  obtain ⟨first, first_mem, first_pos⟩ := exists_pos (nonnegative.trans_lt large)
  -- Without the first one the sum is still positive, as no number exceeds the bound.
  have rest : 0 < ∑ i ∈ places.erase first, value i := by
    have split := Finset.sum_erase_add places value first_mem
    have := small first first_mem
    linarith
  obtain ⟨second, second_mem, second_pos⟩ := exists_pos rest
  obtain ⟨different, second_mem⟩ := Finset.mem_erase.1 second_mem
  exact ⟨first, first_mem, second, second_mem, different.symm, first_pos, second_pos⟩

namespace Run

variable {problem : LinearProgram Rat} {config : Config Rat} {run : Run Rat}

namespace IsSound

/-! ## The balance of a column -/

/-- In the first phase an artificial column costs one and any other column nothing. -/
theorem cell_phaseOneCosts (sound : run.IsSound problem) {col : Nat}
    (inside : col < run.tableau.numColumns) :
    Row.cell (run.form.phaseCosts .one) col =
      if run.form.firstArtificial ≤ col then -1 else 0 := by
  rw [sound.numColumns_eq] at inside
  rw [sound.form_eq]
  have cost : Row.cell ((StandardForm.ofProblem problem).phaseCosts .one) col =
      if problem.standardColumns[col].isArtificial then -1 else 0 := by
    simp [Row.cell, StandardForm.phaseCosts, StandardForm.phaseOneCosts, StandardForm.ofProblem,
      LinearProgram.standardTableau, inside]
  rw [cost]
  exact if_congr (problem.isArtificial_iff inside) rfl rfl

/-- What the artificial rows have in a column, the objective row has with the opposite sign, up to
the cost of the column. -/
theorem cell_zero_add_sum (sound : run.IsSound problem) (state : run.state = .iterating .one)
    {col : Nat} (inside : col ≤ run.tableau.numColumns) :
    run.tableau.cell 0 col +
      ∑ row ∈ run.tableau.artificialRows run.form.firstArtificial, run.tableau.cell row col =
        -Row.cell (run.form.phaseCosts .one) col := by
  have fits := (sound.length_phaseCosts_le .one).trans (Nat.le_succ _)
  have balance := (sound.prices .one state).cell_eq sound.canonical fits inside
  -- Only artificial columns cost anything, so only their rows remain of the sum of costs.
  have costs : ∑ row ∈ run.tableau.constraintIndices,
      Row.cell (run.form.phaseCosts .one) (run.tableau.basicColumn row) *
        run.tableau.cell row col =
      -∑ row ∈ run.tableau.artificialRows run.form.firstArtificial, run.tableau.cell row col := by
    rw [Tableau.artificialRows, Finset.sum_filter, ← Finset.sum_neg_distrib]
    apply Finset.sum_congr rfl
    intro row row_mem
    rw [sound.cell_phaseOneCosts (Tableau.basicColumn_lt row_mem)]
    split <;> ring
  linarith

/-- A column that enters in the first phase has a sum above the tolerance in the artificial rows. -/
theorem lt_sum_of_enters (sound : run.IsSound problem) (state : run.state = .iterating .one)
    {col : Nat} (enters : run.enteringColumn .one = some col) :
    run.config.tolerance <
      ∑ row ∈ run.tableau.artificialRows run.form.firstArtificial, run.tableau.cell row col := by
  obtain ⟨inside, negative⟩ := sound.enteringColumn_eq_some enters
  have balance := sound.cell_zero_add_sum state inside.le
  have cost := sound.cell_phaseOneCosts inside
  have nonneg : 0 ≤ -Row.cell (run.form.phaseCosts .one) col := by
    rw [cost]
    split <;> norm_num
  linarith

/-- The value of the objective is minus the sum of the right-hand sides of the artificial rows. -/
theorem objectiveValue_add_sum (sound : run.IsSound problem)
    (state : run.state = .iterating .one) :
    run.tableau.objectiveValue +
      ∑ row ∈ run.tableau.artificialRows run.form.firstArtificial,
        run.tableau.cell row run.tableau.rhsIndex = 0 := by
  have free : Row.cell (run.form.phaseCosts .one) run.tableau.rhsIndex = 0 :=
    Row.cell_of_length_le (sound.length_phaseCosts_le .one)
  have inside : run.tableau.rhsIndex ≤ run.tableau.numColumns := le_rfl
  rw [Tableau.objectiveValue_eq, sound.cell_zero_add_sum state inside, free, neg_zero]

/-- If the objective of the first phase is not negative, all artificial columns are zero. -/
theorem artificialsAtZero (sound : run.IsSound problem) (state : run.state = .iterating .one)
    (feasible : ∀ row ∈ run.tableau.constraintIndices,
      0 ≤ run.tableau.cell row run.tableau.rhsIndex)
    (accepted : 0 ≤ run.tableau.objectiveValue) :
    run.tableau.ArtificialsAtZero run.form.firstArtificial := by
  have terms : ∀ row ∈ run.tableau.artificialRows run.form.firstArtificial,
      0 ≤ run.tableau.cell row run.tableau.rhsIndex :=
    fun row row_mem => feasible row (Tableau.mem_artificialRows.1 row_mem).1
  have sum := Finset.sum_nonneg terms
  have total := sound.objectiveValue_add_sum state
  -- Numbers that are not negative and add up to zero are all zero.
  have zero : ∑ row ∈ run.tableau.artificialRows run.form.firstArtificial,
      run.tableau.cell row run.tableau.rhsIndex = 0 := by linarith
  intro row row_mem late
  exact (Finset.sum_eq_zero_iff_of_nonneg terms).1 zero row
    (Tableau.mem_artificialRows.2 ⟨row_mem, late⟩)

end IsSound

/-! ## The ways out -/

/-- Everything that a step in the first phase can lead to. -/
private theorem state_of_move {next : Run Rat} (move : run.Move next none)
    (state : run.state = .iterating .one) :
    next.state = .iterating .one ∨ next.state = .iterating .two ∨
      next.state = .finished .infeasible ∨ next.state = .finished .capReached ∨
        next.state = .finished .unbounded := by
  cases move <;> simp_all

/-- The run is found unbounded exactly if a column enters that no row limits to tolerance. -/
private theorem unbounded_iff_of_move {next : Run Rat} (move : run.Move next none)
    (state : run.state = .iterating .one) :
    next.state = .finished .unbounded ↔ run.pivots < run.cap ∧
      ∃ col, run.enteringColumn .one = some col ∧
        ∀ row ∈ run.tableau.constraintIndices,
          run.tableau.cell row col ≤ run.config.tolerance := by
  constructor
  · intro unbounded
    have unfinished : run.state.status? = none := by rw [state]; rfl
    obtain ⟨-, phase, col, at_phase, enters, below, unlimited⟩ :=
      move.endsWith unfinished unbounded
    obtain rfl : phase = .one := RunState.iterating.inj (at_phase.symm.trans state)
    exact ⟨below, col, enters, Tableau.leavingRow_eq_none_iff_cell_le.1 unlimited⟩
  · rintro ⟨below, col, enters, small⟩
    have unlimited : run.tableau.leavingRow col run.config.tolerance = none :=
      Tableau.leavingRow_eq_none_iff_cell_le.2 small
    -- No other step is possible from such a state, since the column and the ratio test are fixed.
    cases move with
    | findUnbounded => rfl
    | reachCap phase _ _ _ reached => omega
    | pivot phase row other next at_phase enters' _ leaves made =>
      obtain rfl : phase = .one := RunState.iterating.inj (at_phase.symm.trans state)
      obtain rfl : col = other := Option.some.inj (enters.symm.trans enters')
      rw [unlimited] at leaves
      cases leaves
    | _ => simp_all

/-- A step in the first phase does not fail, and it leads to a state of either phase, to the finding
that the problem is infeasible, or to the cap, unless a column enters whose cells in the constraint
rows are all of at most the tolerance. Then the cells in the artificial rows add up to more than the
tolerance, two of them at least are positive, and the run ends unbounded although these rows limit
the column. -/
theorem phaseOne_step (created : Run.create problem config = .ok run) {steps : Nat}
    (state : (run.after steps).state = .iterating .one) :
    let current := run.after steps
    let next := run.after (steps + 1)
    let artificialRows := current.tableau.artificialRows current.form.firstArtificial
    current.step.failure = none ∧
    (next.state = .iterating .one ∨ next.state = .iterating .two ∨
      next.state = .finished .infeasible ∨ next.state = .finished .capReached ∨
        next.state = .finished .unbounded) ∧
    (next.state = .finished .unbounded ↔ current.pivots < current.cap ∧
      ∃ col, current.enteringColumn .one = some col ∧
        ∀ row ∈ current.tableau.constraintIndices,
          current.tableau.cell row col ≤ config.tolerance) ∧
    (next.state = .finished .unbounded → ∃ col, current.enteringColumn .one = some col ∧
      config.tolerance < ∑ row ∈ artificialRows, current.tableau.cell row col ∧
      ∃ first ∈ artificialRows, ∃ second ∈ artificialRows, first ≠ second ∧
        0 < current.tableau.cell first col ∧ current.tableau.cell first col ≤ config.tolerance ∧
        0 < current.tableau.cell second col ∧
          current.tableau.cell second col ≤ config.tolerance) := by
  intro current next artificialRows
  have start := isSound_of_create created
  have sound : current.IsSound problem := isSound_after start steps
  have move : current.Move next none := start.move steps
  have tolerance_eq : current.config.tolerance = config.tolerance := by
    rw [show current.config = run.config from after_config _ steps, config_of_create created]
  have unbounded_iff := unbounded_iff_of_move move state
  rw [tolerance_eq] at unbounded_iff
  refine ⟨sound.failure_eq_none, state_of_move move state, unbounded_iff, fun unbounded => ?_⟩
  obtain ⟨-, col, enters, small⟩ := unbounded_iff.1 unbounded
  -- Every cell is within the tolerance, and their sum over the artificial rows is not.
  have large := sound.lt_sum_of_enters state enters
  rw [tolerance_eq] at large
  have small_artificial : ∀ row ∈ artificialRows, current.tableau.cell row col ≤ config.tolerance :=
    fun row row_mem => small row (Tableau.mem_artificialRows.1 row_mem).1
  have nonnegative : 0 ≤ config.tolerance := tolerance_eq ▸ sound.tolerance_pos.le
  obtain ⟨first, first_mem, second, second_mem, different, first_pos, second_pos⟩ :=
    exists_two_pos nonnegative small_artificial large
  exact ⟨col, enters, large, first, first_mem, second, second_mem, different,
    first_pos, small_artificial first first_mem, second_pos, small_artificial second second_mem⟩

end Run

/-! ## Two rows below the tolerance -/

/-- A problem whose only variable is fixed by two equal rows with a small coefficient. -/
def faintRows : LinearProgram Rat where
  sense := .maximize
  objective := [1]
  constraints := List.replicate 2 ⟨[6 / 10 ^ 10], .equal, 1⟩

/-- The usual configuration, for rational numbers. -/
def billionth : Config Rat where
  tolerance := 1 / 10 ^ 9

/-- The run of this problem with a tolerance that is larger than the coefficients. -/
def faintRun : Run Rat := .initial faintRows billionth

private theorem create_faintRun : Run.create faintRows billionth = .ok faintRun :=
  Run.create_eq_ok_initial (by decide +kernel) (by decide +kernel)

/-- The first phase of this run ends unbounded, though the variable has only one value: each cell is
within the tolerance, and both together are not. -/
theorem unbounded_faintRun :
    Run.create faintRows billionth = .ok faintRun ∧
      (faintRun.after 1).state = .iterating .one ∧
      (faintRun.after 2).state = .finished .unbounded ∧
      ∀ x, faintRows.Feasible x ↔ x 0 = 10 ^ 10 / 6 := by
  refine ⟨create_faintRun, by decide +kernel, by decide +kernel,
    fun x => ⟨fun feasible => ?_, fun fixed => ⟨fun index inside => ?_, fun row member => ?_⟩⟩⟩
  · have row := feasible.satisfied _ (List.mem_replicate.2 ⟨two_ne_zero, rfl⟩)
    norm_num [Constraint.Satisfied, Relation.Holds, Row.dot, Row.cell] at row
    linarith
  · obtain rfl : index = 0 := Nat.lt_one_iff.1 inside
    norm_num [fixed]
  · rw [List.eq_of_mem_replicate member]
    norm_num [Constraint.Satisfied, Relation.Holds, Row.dot, Row.cell, fixed]

/-- In this run two rows have a positive cell within the tolerance. -/
theorem artificialRows_faintRun :
    (faintRun.after 1).step.failure = none ∧
      ∃ col, (faintRun.after 1).enteringColumn .one = some col ∧
        ∃ first second, first ≠ second ∧ 0 < (faintRun.after 1).tableau.cell first col ∧
          0 < (faintRun.after 1).tableau.cell second col := by
  have state : (faintRun.after 1).state = .iterating .one := by decide +kernel
  obtain ⟨succeeds, -, -, causes⟩ := Run.phaseOne_step create_faintRun state
  obtain ⟨col, enters, -, first, -, second, -, different, first_pos, -, second_pos, -⟩ :=
    causes (by decide +kernel)
  exact ⟨succeeds, col, enters, first, second, different, first_pos, second_pos⟩

end SimplexMethod

import SimplexMethod.Proofs.Run.Feasibility

/-!
# The second phase

An artificial column that is still basic in the second phase stays there, at zero. Its row has
nothing but zeros in the columns that may enter, so no pivot of the phase changes it.

## Main definitions

* `Tableau.HasIdleArtificials`: the basic artificial columns are zero, in rows without effect

## Main results

* `Run.hasIdleArtificials_after`: this holds in the second phase of a separated run
-/

namespace SimplexMethod

namespace Tableau

/-- The artificial columns that are basic have the value zero, and their rows have zeros in all
columns that are not artificial. -/
structure HasIdleArtificials (tableau : Tableau Rat) (firstArtificial : Nat) : Prop where
  atZero : tableau.ArtificialsAtZero firstArtificial
  settled : ∀ row ∈ tableau.constraintIndices, tableau.IsSettled firstArtificial row

variable {tableau : Tableau Rat} {firstArtificial : Nat}

/-- Without artificial columns there is nothing to show. -/
theorem hasIdleArtificials_of_le (none_ : tableau.numColumns ≤ firstArtificial) :
    tableau.HasIdleArtificials firstArtificial := by
  have early {row : Nat} (row_mem : row ∈ tableau.constraintIndices) :
      ¬firstArtificial ≤ tableau.basicColumn row :=
    not_le.2 ((basicColumn_lt row_mem).trans_le none_)
  exact ⟨fun row row_mem late => absurd late (early row_mem),
    fun row row_mem late => absurd late (early row_mem)⟩

theorem HasIdleArtificials.withObjective (idle : tableau.HasIdleArtificials firstArtificial)
    (costs : List Rat) : (tableau.withObjective costs).HasIdleArtificials firstArtificial := by
  have positive {row : Nat} (row_mem : row ∈ tableau.constraintIndices) : row ≠ 0 := by
    have := (tableau.mem_constraintIndices.1 row_mem).1
    omega
  constructor
  · intro row row_mem late
    rw [constraintIndices_withObjective] at row_mem
    rw [basicColumn_withObjective] at late
    rw [cell_withObjective (positive row_mem)]
    exact idle.atZero row row_mem late
  · intro row row_mem late col early
    rw [constraintIndices_withObjective] at row_mem
    rw [basicColumn_withObjective] at late
    rw [cell_withObjective (positive row_mem)]
    exact idle.settled row row_mem late col early

/-- A pivot in a column that is not artificial leaves the rows of artificial columns alone. -/
theorem Exchange.hasIdleArtificials {before after : Tableau Rat} {row col : Nat}
    (exchange : before.Exchange row col after) (early : col < firstArtificial)
    (idle : before.HasIdleArtificials firstArtificial) :
    after.HasIdleArtificials firstArtificial := by
  constructor
  · intro i i_mem late
    rw [exchange.constraintIndices_eq] at i_mem
    rw [exchange.basicColumn_eq] at late
    -- The pivot row has a column that is not artificial now, and other artificial rows have a zero
    -- where they would give up a multiple of it.
    by_cases own : i = row
    · rw [if_pos own] at late
      omega
    · rw [if_neg own] at late
      rw [show after.rhsIndex = before.rhsIndex from exchange.numColumns_eq, exchange.cell_eq,
        if_neg own, idle.settled i i_mem late col early, zero_mul, sub_zero]
      exact idle.atZero i i_mem late
  · intro i i_mem
    rw [exchange.constraintIndices_eq] at i_mem
    exact exchange.isSettled early fun _ => idle.settled i i_mem

end Tableau

namespace Run

variable {problem : LinearProgram Rat} {run : Run Rat}

/-- Driving out leaves idle artificial columns behind. -/
private theorem hasIdleArtificials_driveOut (sound : run.IsSound problem) (sharp : run.IsSharp)
    (feasible : run.tableau.IsFeasible) (state : run.state = .iterating .one)
    (priced : run.enteringColumn .one = none)
    (accepted : isNegative run.tableau.objectiveValue run.config.tolerance = false)
    (separated : ∀ value ∈ Tableau.driveOutNumbers run.form.firstArtificial run.config.tolerance
      (List.range' 1 run.tableau.numConstraints) run.tableau,
        IsSeparated run.config.tolerance value) :
    (run.tableau.driveOut run.form.firstArtificial
      run.config.tolerance).tableau.HasIdleArtificials run.form.firstArtificial := by
  have zero := sharp.artificialsAtZero sound feasible state priced accepted
  have same := (sound.driveOut (sound.prices .one state)).1.trans sound.sameSystem.symm
  refine ⟨(Tableau.cell_rhsIndex_driveOut sound.tolerance_pos.le zero 0).1, fun row row_mem => ?_⟩
  rw [same.constraintIndices_eq] at row_mem
  exact Tableau.isSettled_driveOut sound.tolerance_pos.le separated sound.firstArtificial_le row_mem

/-- In the second phase of a separated run the artificial columns are idle. -/
theorem hasIdleArtificials_after {config : Config Rat}
    (created : Run.create problem config = .ok run) (separated : run.StepsSeparated) {steps : Nat}
    (state : (run.after steps).state = .iterating .two) :
    (run.after steps).tableau.HasIdleArtificials run.form.firstArtificial := by
  have start := isSound_of_create created
  -- The second phase is entered with idle columns, and each of its pivots keeps them idle.
  induction steps with
  | zero =>
    obtain ⟨-, -, rfl⟩ := create_eq_ok_iff.1 created
    cases state
  | succ steps ih =>
    have sound := isSound_after start steps
    have form_eq := run.after_form steps
    have move := start.move steps
    generalize run.after (steps + 1) = next at move state
    cases move with
    | stay status before => exact ih state
    | enterPhaseTwo before unneeded =>
      refine Tableau.HasIdleArtificials.withObjective (Tableau.hasIdleArtificials_of_le ?_) _
      rw [StandardForm.hasArtificials, decide_eq_false_iff_not, not_lt, sound.form_eq] at unneeded
      rw [sound.numColumns_eq, ← form_eq, sound.form_eq]
      exact unneeded
    | pivot phase row col after before enters below leaves made =>
      have exchange := Tableau.exchange_of_pivot sound.tolerance_pos.le made
      obtain rfl : phase = .two := RunState.iterating.inj (before.symm.trans state)
      have early := (sound.enteringColumn_eq_some enters).1
      rw [numEligible, form_eq] at early
      exact exchange.hasIdleArtificials early (ih before)
    | driveOut before priced accepted succeeds =>
      have sharp := separated.isSharp start.tolerance_pos.le steps
      have feasible := separated.isFeasible_after created steps
      rw [← form_eq]
      refine (hasIdleArtificials_driveOut sound sharp feasible before priced accepted
        fun value member => ?_).withObjective _
      rw [after_config] at member ⊢
      rw [form_eq] at member
      rw [after_config] at accepted
      exact separated.driveOutNumbers before priced accepted member
    | _ => cases state

end Run

end SimplexMethod

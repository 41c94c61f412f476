import SimplexMethod.Proofs.Run.Phases

/-!
# Progress of the objective

In a separated run no right-hand side ever becomes negative, so a counted pivot never makes the
objective smaller, and it makes it larger if the right-hand side of its row is positive. As the
basis determines the objective, a stretch of a phase on which all pivots are of this kind meets no
basis twice, whichever rule picks the columns.

## Main definitions

* `Tableau.gain`: what a pivot adds to the objective
* `Run.CountedPivot`: a step that makes a counted pivot

## Main results

* `Run.CountedPivot.gain_nonneg`, `Run.CountedPivot.gain_pos`: no counted pivot loses, and one with
  a positive right-hand side gains
* `Run.cell_rhsIndex_of_driveOut`: driving out changes no right-hand side
* `Run.objective_progress`: the objective of a separated run
-/

namespace SimplexMethod

namespace Tableau

/-- What a pivot adds to the objective. -/
def gain (tableau : Tableau Rat) (row col : Nat) : Rat :=
  -tableau.cell 0 col * tableau.cell row tableau.rhsIndex / tableau.cell row col

theorem Exchange.objectiveValue_eq_add_gain {before after : Tableau Rat} {row col : Nat}
    (exchange : before.Exchange row col after) :
    after.objectiveValue = before.objectiveValue + before.gain row col := by
  rw [exchange.objectiveValue_eq, gain, ratio]
  ring

end Tableau

namespace Run

/-- A step that makes a counted pivot: the column and the row are those that the rule and the ratio
test pick. -/
structure CountedPivot (run : Run Rat) (phase : Phase) (row col : Nat) (next : Run Rat) : Prop where
  state : run.state = .iterating phase
  enters : run.enteringColumn phase = some col
  below : run.pivots < run.cap
  leaves : run.tableau.leavingRow col run.config.tolerance = some row
  made : run.tableau.pivot row col run.config.tolerance = .ok next.tableau
  counted : next.pivots = run.pivots + 1
  state_eq : next.state = run.state

/-- A step that counts a pivot makes one. -/
theorem Move.exists_countedPivot {run next : Run Rat} (move : run.Move next none)
    (counted : next.pivots ≠ run.pivots) :
    ∃ phase row col, run.CountedPivot phase row col next := by
  cases move with
  | pivot phase row col next state enters below leaves made =>
    exact ⟨phase, row, col, state, enters, below, leaves, made, rfl, rfl⟩
  | _ => exact absurd rfl counted

variable {problem : LinearProgram Rat} {config : Config Rat} {run next : Run Rat} {phase : Phase}
  {row col : Nat}

/-! ## One pivot -/

namespace CountedPivot

theorem exchange (pivot : run.CountedPivot phase row col next) (sound : run.IsSound problem) :
    run.tableau.Exchange row col next.tableau :=
  Tableau.exchange_of_pivot sound.tolerance_pos.le pivot.made

/-- The entering column has a negative cell in the objective row. -/
theorem improves (pivot : run.CountedPivot phase row col next) (sound : run.IsSound problem) :
    run.tableau.cell 0 col < 0 :=
  (sound.enteringColumn_eq_some pivot.enters).2.trans (neg_neg_of_pos sound.tolerance_pos)

variable (pivot : run.CountedPivot phase row col next) (sound : run.IsSound problem)

include pivot sound

/-- No counted pivot makes the objective smaller. -/
theorem gain_nonneg (feasible : run.tableau.IsFeasible) : 0 ≤ run.tableau.gain row col :=
  div_nonneg (mul_nonneg (neg_nonneg.2 (pivot.improves sound).le)
    (feasible row (pivot.exchange sound).row_mem)) (sound.cell_pos_of_leavingRow pivot.leaves).le

/-- A counted pivot in a row with a positive right-hand side makes the objective larger. -/
theorem gain_pos (positive : 0 < run.tableau.cell row run.tableau.rhsIndex) :
    0 < run.tableau.gain row col :=
  div_pos (mul_pos (neg_pos.2 (pivot.improves sound)) positive)
    (sound.cell_pos_of_leavingRow pivot.leaves)

end CountedPivot

/-! ## Driving out -/

/-- Driving out and entering the second phase change no right-hand side of a constraint row. -/
theorem cell_rhsIndex_of_driveOut (move : run.Move next none) (sound : run.IsSound problem)
    (sharp : run.IsSharp) (feasible : run.tableau.IsFeasible)
    (before : run.state = .iterating .one) (after : next.state = .iterating .two)
    (row_mem : row ∈ run.tableau.constraintIndices) :
    let driven := (run.tableau.driveOut run.form.firstArtificial run.config.tolerance).tableau
    driven.cell row driven.rhsIndex = run.tableau.cell row run.tableau.rhsIndex ∧
      next.tableau.cell row next.tableau.rhsIndex = run.tableau.cell row run.tableau.rhsIndex := by
  obtain ⟨priced, accepted, -, tableau⟩ := move.driveOut_eq before after
  have zero := sharp.artificialsAtZero sound feasible before priced accepted
  have kept := (Tableau.cell_rhsIndex_driveOut sound.tolerance_pos.le zero row).2
  refine ⟨kept, Eq.trans ?_ kept⟩
  -- The objective of the second phase enters the objective row only.
  have other : row ≠ 0 := by
    have := (run.tableau.mem_constraintIndices.1 row_mem).1
    omega
  rw [tableau]
  exact Tableau.cell_withObjective other _

/-! ## A stretch of a phase -/

/-- All counted pivots of a stretch are made in rows with positive right-hand sides. -/
def PivotsArePositive (run : Run Rat) (first last : Nat) : Prop :=
  ∀ k, first ≤ k → k < last → ∀ phase row col,
    (run.after k).CountedPivot phase row col (run.after (k + 1)) →
      0 < (run.after k).tableau.cell row (run.after k).tableau.rhsIndex

section Stretch

variable {first last : Nat} (created : Run.create problem config = .ok run)
  (start : (run.after first).state = .iterating phase)
  (stop : (run.after last).state = .iterating phase) (positive : run.PivotsArePositive first last)

include created start stop positive

/-- On such a stretch every step makes the objective larger. -/
theorem objectiveValue_lt {i j : Nat} (first_le : first ≤ i) (less : i < j) (le_last : j ≤ last) :
    (run.after i).tableau.objectiveValue < (run.after j).tableau.objectiveValue := by
  have sound := isSound_of_create created
  have state {k : Nat} (first_le : first ≤ k) (le_last : k ≤ last) :=
    sound.state_between start first_le le_last stop
  have step {k : Nat} (first_le : first ≤ k) (before : k < last) :
      (run.after k).tableau.objectiveValue < (run.after (k + 1)).tableau.objectiveValue := by
    have counted : (run.after (k + 1)).pivots ≠ (run.after k).pivots := by
      obtain ⟨-, -, -, -, -, -, counted⟩ := (sound.move k).exists_pivot
        (state first_le before.le) (state (first_le.trans k.le_succ) before)
      omega
    obtain ⟨phase, row, col, pivot⟩ := (sound.move k).exists_countedPivot counted
    have current := isSound_after sound k
    rw [(pivot.exchange current).objectiveValue_eq_add_gain]
    exact lt_add_of_pos_right _ (pivot.gain_pos current
      (positive k first_le before phase row col pivot))
  induction j, less using Nat.le_induction with
  | base => exact step first_le le_last
  | succ j between ih =>
    exact (ih (Nat.le_of_succ_le le_last)).trans
      (step (first_le.trans (Nat.le_of_succ_le between)) le_last)

/-- On such a stretch no basis appears twice, since the basis determines the objective. -/
theorem basis_ne_of_pivotsArePositive {i j : Nat} (first_le : first ≤ i) (less : i < j)
    (le_last : j ≤ last) :
    (run.after i).tableau.basis.toFinset ≠ (run.after j).tableau.basis.toFinset := by
  intro same
  have sound := isSound_of_create created
  have current := isSound_after sound i
  have later := isSound_after sound j
  have state {k : Nat} (first_le : first ≤ k) (le_last : k ≤ last) :=
    sound.state_between start first_le le_last stop
  have prices := current.prices phase (state first_le (less.le.trans le_last))
  have prices' := later.prices phase (state (first_le.trans less.le) le_last)
  have fits := current.length_phaseCosts_le phase
  rw [after_form] at prices prices' fits
  refine (objectiveValue_lt created start stop positive first_le less le_last).ne
    (Tableau.objectiveValue_eq_of_basis_eq (current.sameSystem.trans later.sameSystem.symm)
      current.canonical later.canonical prices prices' fits fun col => ?_)
  rw [← List.mem_toFinset, same, List.mem_toFinset]

/-- Such a stretch counts fewer pivots than there are bases. -/
theorem pivots_lt_of_pivotsArePositive (le : first ≤ last) :
    (run.after last).pivots < (run.after first).pivots + numBases problem := by
  have sound := isSound_of_create created
  obtain ⟨length, rfl⟩ := Nat.exists_eq_add_of_le le
  have distinct (i j : Nat) (less : i < j) (bounded : j ≤ length) :
      (run.after (first + i)).tableau.basis.toFinset ≠
        (run.after (first + j)).tableau.basis.toFinset :=
    basis_ne_of_pivotsArePositive created start stop positive (Nat.le_add_right first i)
      (Nat.add_lt_add_left less first) (Nat.add_le_add_left bounded first)
  rw [sound.pivots_eq start stop]
  exact Nat.add_lt_add_left (sound.length_lt_numBases distinct) _

end Stretch

/-- In exact arithmetic, let a run under either rule compare only numbers with its tolerance that
are zero or of a magnitude above it. Then no right-hand side is ever negative, and driving out
changes none of them. A counted pivot raises the objective by its gain, which is not negative, and
positive if the right-hand side of its row is. While all pivots of a phase are of this kind, no
basis appears twice, and there are fewer pivots than sets of as many columns as constraint rows. -/
theorem objective_progress (created : Run.create problem config = .ok run)
    (separated : run.StepsSeparated) :
    (∀ steps, (run.after steps).tableau.IsFeasible) ∧
    (∀ steps, (run.after steps).state = .iterating .one →
      (run.after (steps + 1)).state = .iterating .two →
        let before := (run.after steps).tableau
        let driven := (before.driveOut run.form.firstArtificial run.config.tolerance).tableau
        let after := (run.after (steps + 1)).tableau
        ∀ row ∈ before.constraintIndices,
          driven.cell row driven.rhsIndex = before.cell row before.rhsIndex ∧
            after.cell row after.rhsIndex = before.cell row before.rhsIndex) ∧
    (∀ steps, (run.after (steps + 1)).pivots ≠ (run.after steps).pivots →
      ∃ phase row col, (run.after steps).CountedPivot phase row col (run.after (steps + 1))) ∧
    (∀ steps phase row col,
      (run.after steps).CountedPivot phase row col (run.after (steps + 1)) →
        let before := (run.after steps).tableau
        (run.after (steps + 1)).tableau.objectiveValue =
            before.objectiveValue + before.gain row col ∧
          0 ≤ before.gain row col ∧
          (0 < before.cell row before.rhsIndex → 0 < before.gain row col)) ∧
    ∀ phase first last, first ≤ last → (run.after first).state = .iterating phase →
      (run.after last).state = .iterating phase → run.PivotsArePositive first last →
        (∀ i j, first ≤ i → i < j → j ≤ last →
          (run.after i).tableau.basis.toFinset ≠ (run.after j).tableau.basis.toFinset) ∧
        (run.after last).pivots < (run.after first).pivots +
          run.form.tableau.numColumns.choose run.form.tableau.numConstraints := by
  have sound := isSound_of_create created
  have feasible := separated.isFeasible_after created
  refine ⟨feasible, fun steps before after => ?_,
    fun steps => (sound.move steps).exists_countedPivot, fun steps phase row col pivot => ?_,
    fun phase first last le start stop positive => ⟨?_, ?_⟩⟩
  · intro tableau driven next row row_mem
    have kept := cell_rhsIndex_of_driveOut (sound.move steps) (isSound_after sound steps)
      (separated.isSharp sound.tolerance_pos.le steps) (feasible steps) before after row_mem
    rwa [after_form, after_config] at kept
  · have current := isSound_after sound steps
    exact ⟨(pivot.exchange current).objectiveValue_eq_add_gain,
      pivot.gain_nonneg current (feasible steps), pivot.gain_pos current⟩
  · exact fun i j first_le less le_last => basis_ne_of_pivotsArePositive created start
      stop positive first_le less le_last
  · rw [sound.form_eq]
    exact pivots_lt_of_pivotsArePositive created start stop positive le

end Run

/-- The second phase of this run makes one pivot under the rule of the most negative cell, in a row
with right-hand side three. -/
theorem pivotsArePositive_redundantRun : (redundantRun .dantzig).PivotsArePositive 3 4 := by
  have state : ((redundantRun .dantzig).after 3).state = .iterating .two := by decide +kernel
  have enters : ((redundantRun .dantzig).after 3).enteringColumn .two = some 1 := by
    decide +kernel
  have leaves : ((redundantRun .dantzig).after 3).tableau.leavingRow 1
      ((redundantRun .dantzig).after 3).config.tolerance = some 3 := by
    decide +kernel
  have positive : 0 < ((redundantRun .dantzig).after 3).tableau.cell 3
      ((redundantRun .dantzig).after 3).tableau.rhsIndex := by
    decide +kernel
  intro k first_le before phase row col pivot
  obtain rfl : k = 3 := by omega
  generalize (redundantRun .dantzig).after (3 + 1) = next at pivot
  generalize (redundantRun .dantzig).after 3 = run at *
  have phase_eq := RunState.iterating.inj (state.symm.trans pivot.state)
  rw [← phase_eq] at pivot
  have col_eq := Option.some.inj (enters.symm.trans pivot.enters)
  rw [← col_eq] at pivot
  rw [← Option.some.inj (leaves.symm.trans pivot.leaves)]
  exact positive

/-- The bases before and after this pivot differ, although there are ten bases only. -/
theorem objective_progress_redundantRun :
    (redundantRun .dantzig).StepsSeparated ∧ (redundantRun .dantzig).PivotsArePositive 3 4 ∧
      ((redundantRun .dantzig).after 3).tableau.basis.toFinset ≠
        ((redundantRun .dantzig).after 4).tableau.basis.toFinset ∧
      ((redundantRun .dantzig).after 4).pivots < ((redundantRun .dantzig).after 3).pivots +
        (redundantRun .dantzig).form.tableau.numColumns.choose
          (redundantRun .dantzig).form.tableau.numConstraints := by
  have separated := stepsSeparated_redundantRun .dantzig
  have start : ((redundantRun .dantzig).after 3).state = .iterating .two := by decide +kernel
  have stop : ((redundantRun .dantzig).after 4).state = .iterating .two := by decide +kernel
  obtain ⟨-, -, -, -, stretch⟩ := Run.objective_progress (create_redundantRun .dantzig) separated
  obtain ⟨different, few⟩ := stretch .two 3 4 (by omega) start stop pivotsArePositive_redundantRun
  exact ⟨separated, pivotsArePositive_redundantRun, different 3 4 le_rfl (by omega) le_rfl, few⟩

end SimplexMethod

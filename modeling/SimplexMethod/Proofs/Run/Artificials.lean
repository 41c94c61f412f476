import SimplexMethod.Proofs.Run.Columns
import SimplexMethod.Proofs.Run.PhaseTwo

/-!
# Artificial columns in the second phase

No artificial column enters in the second phase, whatever the numbers are. Those that are still
basic when it begins have nothing but zeros in their rows, as far as columns that are not artificial
are concerned, so in exact arithmetic no pivot is made in these rows and they keep their basic
columns.

## Main results

* `Run.Move.basicColumn?_of_phaseTwo`: a step of the second phase makes no artificial column basic
* `Run.Move.keeps_idle`: in exact arithmetic it keeps the basic columns that are artificial
* `artificials_stay_out`: what this says of all runs
-/

namespace SimplexMethod

namespace Run

/-! ## Any kind of numbers -/

section Scalar

variable {α : Type} [Scalar α] {run next : Run α} {failure : Option (PivotError α)}

/-- A step of the second phase makes no artificial column basic. -/
theorem Move.basicColumn?_of_phaseTwo (move : run.Move next failure)
    (state : run.state = .iterating .two) {row col : Nat}
    (late : run.form.firstArtificial ≤ col) (basic : next.tableau.basicColumn? row = some col) :
    run.tableau.basicColumn? row = some col := by
  cases move with
  | stay | reachCap | findUnbounded | refusePivot | findOptimum => exact basic
  | pivot phase pivotRow entering after before enters below leaves made =>
    obtain rfl : phase = .two := RunState.iterating.inj (before.symm.trans state)
    obtain ⟨positive, row_lt, col_lt, -, rfl⟩ := Tableau.pivot_eq_ok_iff_isUsablePivot.1 made
    obtain ⟨row_mem, column⟩ := Tableau.basicColumn?_eq_some_iff.1 basic
    rw [Tableau.constraintIndices_pivoted] at row_mem
    rw [Tableau.basicColumn_pivoted row_lt col_lt positive] at column
    -- The pivot row has an eligible column now, and the other rows have kept theirs.
    split at column
    · have early : entering < run.form.firstArtificial := (lt_of_enteringColumn enters).1
      omega
    · exact Tableau.basicColumn?_eq_some_iff.2 ⟨row_mem, column⟩
  | enterPhaseOne before | enterPhaseTwo before | findInfeasible before | driveOut before
    | refuseDriveOut _ before =>
    rw [state] at before
    cases before

end Scalar

/-! ## Exact arithmetic -/

variable {problem : LinearProgram Rat} {config : Config Rat} {run next : Run Rat}

/-- The run is in the second phase, or finished after it. -/
def IsLate (run : Run Rat) : Prop :=
  run.state = .iterating .two ∨ ∃ status, run.state = .finished status

/-- A step from the second phase on keeps artificial columns idle, and the same ones basic in the
same rows. -/
theorem Move.keeps_idle (move : run.Move next none) (nonnegative : 0 ≤ run.config.tolerance)
    (late : run.IsLate) (idle : run.tableau.HasIdleArtificials run.form.firstArtificial) :
    next.IsLate ∧ next.tableau.HasIdleArtificials run.form.firstArtificial ∧
      ∀ row col, run.form.firstArtificial ≤ col →
        (next.tableau.basicColumn? row = some col ↔ run.tableau.basicColumn? row = some col) := by
  cases move with
  | stay => exact ⟨late, idle, fun _ _ _ => .rfl⟩
  | reachCap | findUnbounded | findOptimum | findInfeasible =>
    exact ⟨.inr ⟨_, rfl⟩, idle, fun _ _ _ => .rfl⟩
  | pivot phase pivotRow entering after before enters below leaves made =>
    have state : run.state = .iterating .two := late.resolve_right fun ⟨_, finished⟩ => by
      rw [before] at finished
      cases finished
    obtain rfl : phase = .two := RunState.iterating.inj (before.symm.trans state)
    have early : entering < run.form.firstArtificial := (lt_of_enteringColumn enters).1
    have exchange := Tableau.exchange_of_pivot nonnegative made
    refine ⟨.inl state, exchange.hasIdleArtificials early idle, fun row col artificial => ?_⟩
    simp only [Tableau.basicColumn?_eq_some_iff, exchange.constraintIndices_eq,
      exchange.basicColumn_eq]
    refine and_congr_right fun row_mem => ?_
    by_cases own : row = pivotRow
    · -- The pivot cell is not zero, so the pivot row was not the row of an artificial column.
      subst row
      rw [if_pos rfl]
      refine iff_of_false (by omega) fun column => exchange.nonzero ?_
      exact idle.settled pivotRow row_mem (column ▸ artificial) entering early
    · rw [if_neg own]
  | enterPhaseOne before | enterPhaseTwo before | driveOut before =>
    rcases late with state | ⟨_, state⟩ <;>
    · rw [before] at state
      cases state

/-- From the second phase to the end of a separated run the artificial columns are idle, and the
same ones are basic in the same rows. -/
theorem keeps_idle_after (created : Run.create problem config = .ok run)
    (separated : run.StepsSeparated) {first later : Nat} (le : first ≤ later)
    (state : (run.after first).state = .iterating .two) :
    (run.after later).IsLate ∧
      (run.after later).tableau.HasIdleArtificials run.form.firstArtificial ∧
      ∀ row col, run.form.firstArtificial ≤ col →
        ((run.after later).tableau.basicColumn? row = some col ↔
          (run.after first).tableau.basicColumn? row = some col) := by
  have sound := isSound_of_create created
  induction later, le using Nat.le_induction with
  | base => exact ⟨.inl state, hasIdleArtificials_after created separated state, fun _ _ _ => .rfl⟩
  | succ later le ih =>
    obtain ⟨late, idle, same⟩ := ih
    rw [← run.after_form later] at idle
    obtain ⟨late', idle', same'⟩ := (sound.move later).keeps_idle
      (isSound_after sound later).tolerance_pos.le late idle
    rw [after_form] at idle' same'
    exact ⟨late', idle', fun row col artificial =>
      (same' row col artificial).trans (same row col artificial)⟩

end Run

/-- Whatever the numbers are, no step of the second phase makes an artificial column basic. In exact
arithmetic, with a separated run, each row with a basic artificial column is zero from the second
phase on, in its right-hand side and in all columns that are not artificial; and to the end of the
run these rows and their basic columns stay the same. -/
theorem artificials_stay_out :
    (∀ {α : Type} [Scalar α] {problem : LinearProgram α} {config : Config α} {run : Run α},
      Run.create problem config = .ok run → ∀ steps,
      (run.after steps).state = .iterating .two → ∀ row col,
        (run.after (steps + 1)).tableau.IsArtificial col →
        (run.after (steps + 1)).tableau.basicColumn? row = some col →
          (run.after steps).tableau.basicColumn? row = some col) ∧
    ∀ {problem : LinearProgram Rat} {config : Config Rat} {run : Run Rat},
      Run.create problem config = .ok run → run.StepsSeparated → ∀ first later, first ≤ later →
      (run.after first).state = .iterating .two →
        let tableau := (run.after later).tableau
        ∀ row col, tableau.IsArtificial col →
          (tableau.basicColumn? row = some col →
            tableau.cell row tableau.rhsIndex = 0 ∧
              ∀ j < tableau.numColumns, ¬tableau.IsArtificial j → tableau.cell row j = 0) ∧
          (tableau.basicColumn? row = some col ↔
            (run.after first).tableau.basicColumn? row = some col) := by
  constructor
  · intro α _ problem config run created steps state row col artificial basic
    obtain ⟨row_mem, rfl⟩ := Tableau.basicColumn?_eq_some_iff.1 basic
    rw [Run.isArtificial_iff created (Tableau.basicColumn_lt row_mem)] at artificial
    refine (run.move_after steps).basicColumn?_of_phaseTwo state ?_ basic
    rwa [Run.after_form]
  · intro problem config run created separated first later le state tableau row col artificial
    obtain ⟨-, idle, same⟩ := Run.keeps_idle_after created separated le state
    have inside : col < tableau.numColumns := by
      obtain ⟨column, found, -⟩ := artificial
      exact (List.getElem?_eq_some_iff.1 found).1
    have late := (Run.isArtificial_iff created inside).1 artificial
    refine ⟨fun basic => ?_, same row col late⟩
    obtain ⟨row_mem, rfl⟩ := Tableau.basicColumn?_eq_some_iff.1 basic
    refine ⟨idle.atZero row row_mem late, fun j j_lt regular => ?_⟩
    rw [Run.isArtificial_iff created j_lt, not_le] at regular
    exact idle.settled row row_mem late j regular

/-- The second row is redundant, and its artificial column stays basic from the third step, which
begins the second phase, to the optimum. -/
theorem artificials_stay_out_redundantRun :
    let run := redundantRun .dantzig
    Run.create redundantProblem (thousandth .dantzig) = .ok run ∧ run.StepsSeparated ∧
      (run.after 3).state = .iterating .two ∧ (run.after 5).state = .finished .optimal ∧
      (run.after 4).tableau.IsArtificial 4 ∧ (run.after 4).tableau.basicColumn? 2 = some 4 ∧
      (run.after 3).tableau.basicColumn? 2 = some 4 ∧
      (run.after 5).tableau.basicColumn? 2 = some 4 ∧
      (run.after 5).tableau.cell 2 (run.after 5).tableau.rhsIndex = 0 := by
  have created := create_redundantRun .dantzig
  have separated := stepsSeparated_redundantRun .dantzig
  have state : ((redundantRun .dantzig).after 3).state = .iterating .two := by decide +kernel
  have artificial : ((redundantRun .dantzig).after 4).tableau.IsArtificial 4 :=
    ⟨.artificial 2, by decide +kernel, rfl⟩
  have artificial' : ((redundantRun .dantzig).after 5).tableau.IsArtificial 4 :=
    ⟨.artificial 2, by decide +kernel, rfl⟩
  have basic : ((redundantRun .dantzig).after 4).tableau.basicColumn? 2 = some 4 := by
    decide +kernel
  have before := artificials_stay_out.1 created 3 state 2 4 artificial basic
  obtain ⟨zero, same⟩ :=
    artificials_stay_out.2 created separated 3 5 (by decide) state 2 4 artificial'
  have last := same.2 before
  exact ⟨created, separated, state, state_redundantRun .dantzig, artificial, basic, before, last,
    (zero last).1⟩

end SimplexMethod

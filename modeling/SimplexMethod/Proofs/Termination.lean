import SimplexMethod.Proofs.Run.Phases

/-!
# Termination under Bland's rule

In a separated run under Bland's rule the pivots of a phase form a path on which no basis appears
twice. So the run ends by itself, unless its cap is smaller than twice the number of bases.

## Main results

* `Run.hasDistinctBases_of_bland`: the bases of a phase are different
* `Run.bland_terminates`: a run with a sufficient cap does not reach it
-/

namespace SimplexMethod

namespace Run

variable {problem : LinearProgram Rat} {config : Config Rat} {run : Run Rat} {phase : Phase}

/-- A step that stays in a phase is a pivot by Bland's rule. -/
private theorem blandPivot_of_step (sound : run.IsSound problem) (separated : run.StepsSeparated)
    (rule : run.config.rule = .bland) {k : Nat} (before : (run.after k).state = .iterating phase)
    (after : (run.after (k + 1)).state = .iterating phase) :
    ∃ row col, (run.after k).tableau.BlandPivot row col (run.after (k + 1)).tableau := by
  have current := isSound_after sound k
  obtain ⟨row, col, enters, below, leaves, made, -⟩ := (sound.move k).exists_pivot before after
  have negative := (current.enteringColumn_eq_some enters).2
  have tolerance_pos := current.tolerance_pos
  -- The choice of the row needs the ratio test, and that of the column needs the pricing.
  exact ⟨row, col, {
    exchange := Tableau.exchange_of_pivot tolerance_pos.le made
    improves := by linarith
    nonneg_of_lt := fun _ earlier => separated.nonneg_of_bland sound rule before enters earlier
    positive := current.cell_pos_of_leavingRow leaves
    least := separated.least_of_leavingRow sound.tolerance_pos.le before enters below leaves }⟩

/-- No basis appears twice in a phase of a separated run under Bland's rule. -/
theorem hasDistinctBases_of_bland (created : Run.create problem config = .ok run)
    (rule : config.rule = .bland) (separated : run.StepsSeparated) : run.HasDistinctBases := by
  intro phase first second less start stop
  have sound := isSound_of_create created
  obtain ⟨length, rfl⟩ := Nat.exists_eq_add_of_le less.le
  have state {k : Nat} (le : k ≤ length) : (run.after (first + k)).state = .iterating phase :=
    sound.state_between start (Nat.le_add_right first k) (Nat.add_le_add_left le first) stop
  -- Rows and columns are picked for all `k`, so that the path can be indexed by numbers.
  have pivots (k : Nat) : ∃ row col, k < length → (run.after (first + k)).tableau.BlandPivot
      row col (run.after (first + (k + 1))).tableau := by
    by_cases inside : k < length
    · obtain ⟨row, col, pivot⟩ := blandPivot_of_step sound separated
        (config_of_create created ▸ rule) (state inside.le) (state inside)
      exact ⟨row, col, fun _ => pivot⟩
    · exact ⟨0, 0, fun less => absurd less inside⟩
  choose row col pivot using pivots
  have path : Tableau.IsBlandPath (run.form.phaseCosts phase) length
      (fun k => (run.after (first + k)).tableau) row col := {
    canonical := fun k _ => (isSound_after sound (first + k)).canonical
    feasible := fun k _ => separated.isFeasible_after created (first + k)
    prices := fun k le => by
      have prices := (isSound_after sound (first + k)).prices phase (state le)
      rwa [after_form] at prices
    fits := by
      have fits := (isSound_after sound first).length_phaseCosts_le phase
      rwa [after_form] at fits
    pivot := pivot }
  exact path.basis_ne (by omega)

/-- In exact arithmetic, let a run under Bland's rule compare only numbers with its tolerance that
are zero or of a magnitude above it. Then no two states of a phase with different numbers of counted
pivots have the same basic columns. If the cap allows at least twice as many pivots as there are
sets of as many columns as constraint rows, the run does not reach the cap, and the problem has a
solution of another status. -/
theorem bland_terminates (created : Run.create problem config = .ok run)
    (rule : config.rule = .bland) (separated : run.StepsSeparated) :
    (∀ phase first second, (run.after first).state = .iterating phase →
      (run.after second).state = .iterating phase →
      (run.after first).pivots ≠ (run.after second).pivots →
        (run.after first).tableau.basis.toFinset ≠ (run.after second).tableau.basis.toFinset) ∧
    (2 * run.form.tableau.numColumns.choose run.form.tableau.numConstraints ≤ run.cap →
      (∀ steps, (run.after steps).state ≠ .finished .capReached) ∧
        ∃ solution, solve problem config = .ok solution ∧ solution.status ≠ .capReached) := by
  have distinct := hasDistinctBases_of_bland created rule separated
  constructor
  · intro phase first second start stop different
    -- Different numbers of pivots belong to different states, one of which comes first.
    rcases Nat.lt_trichotomy first second with less | same | less
    · exact distinct phase first second less start stop
    · exact absurd (same ▸ rfl) different
    · exact (distinct phase second first less stop start).symm
  · intro room
    rw [(isSound_of_create created).form_eq] at room
    have never := distinct.state_ne_capReached created room
    obtain ⟨solution, solved⟩ := exists_solve_eq_ok created
    refine ⟨never, solution, solved, ?_⟩
    obtain ⟨steps, status, finished, rfl⟩ := exists_after_of_solve created solved
    cases status with
    | capReached => exact absurd finished (never steps)
    | optimal | unbounded | infeasible => rintro ⟨⟩

end Run

/-- A run through both phases. There are ten bases, and the cap allows more than twenty pivots. -/
theorem bland_redundantRun :
    (redundantRun .bland).StepsSeparated ∧
      2 * (redundantRun .bland).form.tableau.numColumns.choose
        (redundantRun .bland).form.tableau.numConstraints ≤ (redundantRun .bland).cap ∧
      ∃ solution, solve redundantProblem (thousandth .bland) = .ok solution ∧
        solution.status ≠ .capReached := by
  have room : 2 * (redundantRun .bland).form.tableau.numColumns.choose
      (redundantRun .bland).form.tableau.numConstraints ≤ (redundantRun .bland).cap := by
    decide +kernel
  exact ⟨stepsSeparated_redundantRun .bland, room,
    ((Run.bland_terminates (create_redundantRun .bland) rfl
      (stepsSeparated_redundantRun .bland)).2 room).2⟩

end SimplexMethod

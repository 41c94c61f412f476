import SimplexMethod.Proofs.Run.Comparisons
import SimplexMethod.Proofs.Tableau.Reach
import SimplexMethod.Proofs.Zero

/-!
# The tableaux of a run

The steps of a run are pivots and new objectives, and driving artificial columns out of the basis is
a chain of pivots. So every tableau of a run is reached from the standard form, whatever kind of
numbers it is made of. In exact arithmetic it says the same as the standard form and the objective
of the last phase that has begun.

## Main definitions

* `Run.lastCosts`: the costs that entered the tableau last

## Main results

* `Run.reaches_after`: the tableau after any number of steps is reached from the standard form
* `expresses_of_build`: what all these tableaux say
-/

namespace SimplexMethod

/-- Driving artificial columns out makes pivots only. -/
theorem Tableau.Reaches.driveOut {α : Type} [Scalar α] {first tableau : Tableau α} {costs : List α}
    {tolerance : α} (reached : first.Reaches tableau costs) (nonnegative : 0 ≤ tolerance)
    (firstArtificial : Nat) :
    first.Reaches (tableau.driveOut firstArtificial tolerance).tableau costs :=
  driveOutRows_induction (P := fun driven => first.Reaches driven costs)
    (fun _ _ row col reached _ _ _ made => .pivot row col tolerance reached nonnegative made)
    reached

namespace Run

/-- The costs of the objective that entered the tableau last, in the given number of steps: those of
the phase that the run is in, or was in when it ended. -/
def lastCosts {α : Type} [Scalar α] (run : Run α) : Nat → List α
  | 0 => []
  | steps + 1 =>
    match (run.after (steps + 1)).state with
    | .iterating phase => run.form.phaseCosts phase
    | _ => run.lastCosts steps

variable {α : Type} [Scalar α] {problem : LinearProgram α} {config : Config α} {run : Run α}

theorem lastCosts_of_iterating (created : Run.create problem config = .ok run) {steps : Nat}
    {phase : Phase} (state : (run.after steps).state = .iterating phase) :
    run.lastCosts steps = run.form.phaseCosts phase := by
  cases steps with
  | zero =>
    obtain ⟨-, -, rfl⟩ := create_eq_ok_iff.1 created
    cases state
  | succ steps => rw [lastCosts, state]

/-- A new objective enters a tableau that has been reached. -/
private theorem reaches_withObjective (created : Run.create problem config = .ok run)
    {tableau : Tableau α} {costs : List α} (reached : run.form.tableau.Reaches tableau costs)
    (phase : Phase) :
    run.form.tableau.Reaches (tableau.withObjective (run.form.phaseCosts phase))
      (run.form.phaseCosts phase) := by
  obtain ⟨-, -, rfl⟩ := create_eq_ok_iff.1 created
  have width := congrArg List.length reached.columns_eq
  exact .install _ reached ((StandardForm.length_phaseCosts_le problem phase).trans width.ge)

variable [LawfulZero α]

theorem tolerance_nonneg (created : Run.create problem config = .ok run) :
    0 ≤ run.config.tolerance := by
  obtain ⟨usable, -, rfl⟩ := create_eq_ok_iff.1 created
  obtain ⟨finite, positive⟩ := config.tolerance_of_fault? usable
  exact LawfulZero.zero_le finite positive

/-- Every tableau of a run is reached, also if a step of the run fails. -/
theorem reaches_after (created : Run.create problem config = .ok run) (steps : Nat) :
    run.form.tableau.Reaches (run.after steps).tableau (run.lastCosts steps) := by
  induction steps with
  | zero =>
    obtain ⟨-, -, rfl⟩ := create_eq_ok_iff.1 created
    exact .refl
  | succ steps ih =>
    have nonnegative : 0 ≤ (run.after steps).config.tolerance := by
      rw [after_config]
      exact tolerance_nonneg created
    have form_eq := run.after_form steps
    have kept {phase : Phase} (state : (run.after steps).state = .iterating phase) :
        run.lastCosts steps = run.form.phaseCosts phase := lastCosts_of_iterating created state
    have move := run.move_after steps
    rw [lastCosts]
    generalize run.after (steps + 1) = next, (run.after steps).step.failure = failure at move ⊢
    -- The objective changes where a phase begins; a pivot keeps the phase, and with it the costs.
    cases move with
    | stay status state =>
      rw [state]
      exact ih
    | enterPhaseOne =>
      dsimp only
      rw [form_eq]
      exact reaches_withObjective created ih .one
    | enterPhaseTwo =>
      dsimp only
      rw [form_eq]
      exact reaches_withObjective created ih .two
    | pivot phase row col next state enters below leaves made =>
      dsimp only
      rw [state]
      rw [kept state] at ih
      exact .pivot row col _ ih nonnegative made
    | refusePivot phase row col error state =>
      rw [state]
      rwa [kept state] at ih
    | driveOut =>
      dsimp only
      rw [form_eq]
      exact reaches_withObjective created (ih.driveOut nonnegative _) .two
    | refuseDriveOut error state =>
      dsimp only
      rw [state]
      rw [kept state] at ih
      exact ih.driveOut nonnegative _
    | reachCap | findUnbounded | findOptimum | findInfeasible => exact ih

end Run

/-- In exact arithmetic, whatever tableau pivots on any cells, with any tolerances, and new
objectives make of a standard form, it has the solutions of the standard form, and its objective row
expresses the objective that came last. The tableaux of every run of the problem are made in this
way. -/
theorem expresses_of_build {problem : LinearProgram Rat} {form : StandardForm Rat}
    (built : StandardForm.build problem = .ok form) :
    (∀ tableau costs, form.tableau.Reaches tableau costs →
      tableau.Expresses form.tableau costs) ∧
    ∀ config run, Run.create problem config = .ok run → ∀ steps,
      form.tableau.Reaches (run.after steps).tableau (run.lastCosts steps) ∧
        (run.after steps).tableau.Expresses form.tableau (run.lastCosts steps) := by
  have form_eq : form = .ofProblem problem := by
    unfold StandardForm.build at built
    split at built
    · cases built
    · exact (Except.ok.inj built).symm
  have expresses : ∀ tableau costs, form.tableau.Reaches tableau costs →
      tableau.Expresses form.tableau costs := by
    subst form_eq
    exact fun tableau costs reached => reached.expresses problem.isCanonical_standardTableau
      LinearProgram.cell_zero_standardTableau
  refine ⟨expresses, fun config run created steps => ?_⟩
  have reached := Run.reaches_after created steps
  rw [(Run.isSound_of_create created).form_eq, ← form_eq] at reached
  exact ⟨reached, expresses _ _ reached⟩

/-- A pivot on a negative cell, which no run makes, under an objective of its own; and the last
tableau of a run through both phases, in which a redundant row keeps its artificial column. -/
theorem expresses_redundantRun :
    StandardForm.build redundantProblem = .ok (.ofProblem redundantProblem) ∧
      (∃ next, (redundantProblem.standardTableau.withObjective [0, 5]).pivot 3 0 0 = .ok next ∧
        next.Expresses redundantProblem.standardTableau [0, 5]) ∧
      Run.create redundantProblem (thousandth .dantzig) = .ok (redundantRun .dantzig) ∧
      (redundantRun .dantzig).lastCosts 5 = [-1, 2] ∧
      ((redundantRun .dantzig).after 5).tableau.Expresses redundantProblem.standardTableau
        [-1, 2] := by
  have built : StandardForm.build redundantProblem = .ok (.ofProblem redundantProblem) := by
    rw [StandardForm.build, show redundantProblem.defect? = none by decide +kernel]
  have created := create_redundantRun .dantzig
  have costs : (redundantRun .dantzig).lastCosts 5 = [-1, 2] := by decide +kernel
  obtain ⟨next, made⟩ : ∃ next,
      (redundantProblem.standardTableau.withObjective [0, 5]).pivot 3 0 0 = .ok next :=
    ⟨_, Tableau.pivot_eq_ok_iff.2 ⟨by decide, by decide +kernel, by decide +kernel,
      by decide +kernel, rfl⟩⟩
  have reached : redundantProblem.standardTableau.Reaches next [0, 5] :=
    .pivot 3 0 0 (.install [0, 5] .refl (by decide +kernel)) le_rfl made
  have last := ((expresses_of_build built).2 _ _ created 5).2
  rw [costs] at last
  exact ⟨built, ⟨next, made, (expresses_of_build built).1 _ _ reached⟩, created, costs, last⟩

end SimplexMethod

import Mathlib.Logic.Function.Iterate
import SimplexMethod.Solve

/-!
# Moves of a run

A step does one of a few things. `Run.Move` lists them with everything that is known when they
happen, so that a property of all runs is shown by one case for each of them.

## Main definitions

* `Run.Move`: what a step can do
* `Run.EndsWith`: what has been found when a run ends
* `Run.after`: the run after a number of steps

## Main results

* `Run.move_step`: every step is a move
* `Run.Move.exists_pivot`, `Run.Move.driveOut_eq`: the steps that stay in a phase, and the step that
  leads from one to the other
* `Run.exists_finishing_step`: a finished run was finished by one of its steps
-/

namespace SimplexMethod

namespace Run

variable {α : Type} [Scalar α]

/-- What a step can do: the run that it leads to, and the pivot that failed. -/
inductive Move (run : Run α) : Run α → Option (PivotError α) → Prop
  | stay (status : Status) (state : run.state = .finished status) : Move run run none
  | enterPhaseOne (state : run.state = .initialized) (needed : run.form.hasArtificials = true) :
      Move run { run with
        tableau := run.tableau.withObjective run.form.phaseOneCosts
        state := .iterating .one } none
  | enterPhaseTwo (state : run.state = .initialized) (unneeded : run.form.hasArtificials = false) :
      Move run { run with
        tableau := run.tableau.withObjective run.form.costs
        state := .iterating .two } none
  | reachCap (phase : Phase) (col : Nat) (state : run.state = .iterating phase)
      (enters : run.enteringColumn phase = some col) (reached : run.cap ≤ run.pivots) :
      Move run { run with state := .finished .capReached } none
  | findUnbounded (phase : Phase) (col : Nat) (state : run.state = .iterating phase)
      (enters : run.enteringColumn phase = some col) (below : run.pivots < run.cap)
      (unlimited : run.tableau.leavingRow col run.config.tolerance = none) :
      Move run { run with state := .finished .unbounded } none
  | pivot (phase : Phase) (row col : Nat) (next : Tableau α) (state : run.state = .iterating phase)
      (enters : run.enteringColumn phase = some col) (below : run.pivots < run.cap)
      (leaves : run.tableau.leavingRow col run.config.tolerance = some row)
      (made : run.tableau.pivot row col run.config.tolerance = .ok next) :
      Move run { run with tableau := next, pivots := run.pivots + 1 } none
  | refusePivot (phase : Phase) (row col : Nat) (error : PivotError α)
      (state : run.state = .iterating phase) (enters : run.enteringColumn phase = some col)
      (leaves : run.tableau.leavingRow col run.config.tolerance = some row)
      (refused : run.tableau.pivot row col run.config.tolerance = .error error) :
      Move run run (some error)
  | findOptimum (state : run.state = .iterating .two) (priced : run.enteringColumn .two = none) :
      Move run { run with state := .finished .optimal } none
  | findInfeasible (state : run.state = .iterating .one)
      (priced : run.enteringColumn .one = none)
      (negative : isNegative run.tableau.objectiveValue run.config.tolerance = true) :
      Move run { run with state := .finished .infeasible } none
  | driveOut (state : run.state = .iterating .one) (priced : run.enteringColumn .one = none)
      (accepted : isNegative run.tableau.objectiveValue run.config.tolerance = false)
      (succeeds : (run.tableau.driveOut run.form.firstArtificial run.config.tolerance).failure =
        none) :
      Move run { run with
        tableau := (run.tableau.driveOut run.form.firstArtificial
          run.config.tolerance).tableau.withObjective run.form.costs
        state := .iterating .two } none
  | refuseDriveOut (error : PivotError α) (state : run.state = .iterating .one)
      (priced : run.enteringColumn .one = none)
      (accepted : isNegative run.tableau.objectiveValue run.config.tolerance = false)
      (fails : (run.tableau.driveOut run.form.firstArtificial run.config.tolerance).failure =
        some error) :
      Move run { run with
        tableau := (run.tableau.driveOut run.form.firstArtificial run.config.tolerance).tableau }
        (some error)

private theorem move_finishPhase {run : Run α} {phase : Phase}
    (state : run.state = .iterating phase) (priced : run.enteringColumn phase = none) :
    run.Move (run.finishPhase phase).run (run.finishPhase phase).failure := by
  cases phase with
  | two => exact .findOptimum state priced
  | one =>
    rw [finishPhase, finishPhaseOne]
    by_cases negative : isNegative run.tableau.objectiveValue run.config.tolerance = true
    · rw [if_pos negative]
      exact .findInfeasible state priced negative
    · rw [if_neg negative]
      have accepted := Bool.eq_false_iff.2 negative
      -- What is left is whether driving out fails.
      dsimp only
      split
      · rename_i error fails
        exact .refuseDriveOut error state priced accepted fails
      · rename_i succeeds
        exact .driveOut state priced accepted succeeds

private theorem move_iterate {run : Run α} {phase : Phase}
    (state : run.state = .iterating phase) :
    run.Move (run.iterate phase).run (run.iterate phase).failure := by
  unfold iterate
  split
  · rename_i priced
    exact move_finishPhase state priced
  · rename_i col enters
    by_cases reached : run.cap ≤ run.pivots
    · rw [if_pos reached]
      exact .reachCap phase col state enters reached
    · rw [if_neg reached]
      have below := Nat.lt_of_not_le reached
      split
      · rename_i unlimited
        exact .findUnbounded phase col state enters below unlimited
      · rename_i row leaves
        unfold pivotAt
        dsimp only
        split
        · rename_i error refused
          exact .refusePivot phase row col error state enters leaves refused
        · rename_i next made
          exact .pivot phase row col next state enters below leaves made

/-- Every step is a move. -/
theorem move_step (run : Run α) : run.Move run.step.run run.step.failure := by
  unfold step
  split
  · rename_i state
    unfold start
    split
    · rename_i needed
      exact .enterPhaseOne state needed
    · rename_i unneeded
      exact .enterPhaseTwo state (Bool.eq_false_iff.2 unneeded)
  · rename_i phase state
    exact move_iterate state
  · rename_i status state
    exact .stay status state

namespace Move

variable {run next : Run α} {failure : Option (PivotError α)}

/-- A move that does not fail is the next step of the run. -/
theorem step_eq (move : run.Move next none) : run.step.run = next ∧ run.step.failure = none := by
  cases move with
  | stay status state => simp [step, state]
  | enterPhaseOne state needed => simp [step, state, start, needed, Run.enterPhaseOne]
  | enterPhaseTwo state unneeded => simp [step, state, start, unneeded, Run.enterPhaseTwo]
  | reachCap phase col state enters reached => simp [step, state, iterate, enters, reached, stop]
  | findUnbounded phase col state enters below unlimited =>
    simp [step, state, iterate, enters, Nat.not_le.2 below, unlimited, stop]
  | pivot phase row col next state enters below leaves made =>
    simp [step, state, iterate, enters, Nat.not_le.2 below, leaves, pivotAt, made]
  | findOptimum state priced => simp [step, state, iterate, priced, finishPhase, stop]
  | findInfeasible state priced negative =>
    simp [step, state, iterate, priced, finishPhase, finishPhaseOne, negative, stop]
  | driveOut state priced accepted succeeds =>
    simp [step, state, iterate, priced, finishPhase, finishPhaseOne, accepted, succeeds,
      Run.enterPhaseTwo]

theorem config_eq (move : run.Move next failure) : next.config = run.config := by
  cases move <;> rfl

theorem form_eq (move : run.Move next failure) : next.form = run.form := by
  cases move <;> rfl

/-- A step that stays in a phase makes a pivot. -/
theorem exists_pivot {phase : Phase} (move : run.Move next none)
    (before : run.state = .iterating phase) (after : next.state = .iterating phase) :
    ∃ row col, run.enteringColumn phase = some col ∧ run.pivots < run.cap ∧
      run.tableau.leavingRow col run.config.tolerance = some row ∧
      run.tableau.pivot row col run.config.tolerance = .ok next.tableau ∧
      next.pivots = run.pivots + 1 := by
  cases move with
  | pivot other row col next state enters below leaves made =>
    obtain rfl : other = phase := RunState.iterating.inj (state.symm.trans before)
    exact ⟨row, col, enters, below, leaves, made, rfl⟩
  | stay status state =>
    rw [before] at state
    cases state
  | enterPhaseOne state | enterPhaseTwo state =>
    rw [before] at state
    cases state
  -- Driving out leads from the first phase to the second one, so it does not stay in a phase.
  | driveOut state =>
    obtain rfl := RunState.iterating.inj (state.symm.trans before)
    cases after
  | _ => cases after

/-- A step from the first phase to the second one drives artificial columns out, and enters the
objective of the problem. -/
theorem driveOut_eq (move : run.Move next none) (before : run.state = .iterating .one)
    (after : next.state = .iterating .two) :
    let driven := run.tableau.driveOut run.form.firstArtificial run.config.tolerance
    run.enteringColumn .one = none ∧
      isNegative run.tableau.objectiveValue run.config.tolerance = false ∧
      driven.failure = none ∧ next.tableau = driven.tableau.withObjective run.form.costs := by
  cases move with
  | driveOut state priced accepted succeeds => exact ⟨priced, accepted, succeeds, rfl⟩
  -- Every other step that starts in the first phase stays in it or ends the run.
  | pivot => cases before.symm.trans after
  | stay status state => cases before.symm.trans state
  | enterPhaseTwo state => cases before.symm.trans state
  | _ => cases after

end Move

/-- What has been found when a step ends a run with a status. -/
def EndsWith (run : Run α) : Status → Prop
  | .optimal => run.state = .iterating .two ∧ run.enteringColumn .two = none
  | .unbounded => ∃ phase col, run.state = .iterating phase ∧
      run.enteringColumn phase = some col ∧ run.pivots < run.cap ∧
        run.tableau.leavingRow col run.config.tolerance = none
  | .infeasible => run.state = .iterating .one ∧ run.enteringColumn .one = none ∧
      isNegative run.tableau.objectiveValue run.config.tolerance = true
  | .capReached => ∃ phase col, run.state = .iterating phase ∧
      run.enteringColumn phase = some col ∧ run.cap ≤ run.pivots

/-- A step that ends a run changes its state only. -/
theorem Move.endsWith {run next : Run α} (move : run.Move next none) {status : Status}
    (unfinished : run.state.status? = none) (finished : next.state = .finished status) :
    next = { run with state := .finished status } ∧ run.EndsWith status := by
  cases move with
  | stay other state =>
    rw [state] at unfinished
    cases unfinished
  | pivot phase row col next state =>
    rw [show run.state = .finished status from finished] at state
    cases state
  | reachCap phase col state enters reached =>
    cases finished
    exact ⟨rfl, phase, col, state, enters, reached⟩
  | findUnbounded phase col state enters below unlimited =>
    cases finished
    exact ⟨rfl, phase, col, state, enters, below, unlimited⟩
  | findOptimum state priced =>
    cases finished
    exact ⟨rfl, state, priced⟩
  | findInfeasible state priced negative =>
    cases finished
    exact ⟨rfl, state, priced, negative⟩
  | enterPhaseOne | enterPhaseTwo | driveOut => cases finished

/-! ## Many steps -/

/-- The run after a number of steps, whether they fail or not. -/
def after (run : Run α) (steps : Nat) : Run α := (fun run => run.step.run)^[steps] run

variable (run : Run α)

@[simp] theorem after_zero : run.after 0 = run := rfl

theorem after_succ (steps : Nat) : run.after (steps + 1) = (run.after steps).step.run :=
  Function.iterate_succ_apply' _ _ _

theorem after_step (steps : Nat) : run.step.run.after steps = run.after (steps + 1) :=
  (Function.iterate_succ_apply _ _ _).symm

theorem move_after (steps : Nat) :
    (run.after steps).Move (run.after (steps + 1)) (run.after steps).step.failure := by
  rw [after_succ]
  exact move_step _

@[simp] theorem after_config (steps : Nat) : (run.after steps).config = run.config := by
  induction steps with
  | zero => rfl
  | succ steps ih => rw [(run.move_after steps).config_eq, ih]

@[simp] theorem after_form (steps : Nat) : (run.after steps).form = run.form := by
  induction steps with
  | zero => rfl
  | succ steps ih => rw [(run.move_after steps).form_eq, ih]

@[simp] theorem after_cap (steps : Nat) : (run.after steps).cap = run.cap := by
  simp [cap]

variable {run}

theorem step_of_finished {status : Status} (finished : run.state = .finished status) :
    run.step = ⟨run, [], none⟩ := by
  simp [step, finished]

theorem after_of_finished {steps : Nat} {status : Status}
    (finished : (run.after steps).state = .finished status) {later : Nat} (le : steps ≤ later) :
    run.after later = run.after steps := by
  induction le with
  | refl => rfl
  | step _ ih => rw [after_succ, ih, step_of_finished finished]

/-- A finished run was finished by one of its steps, and stayed as it was from then on. -/
theorem exists_finishing_step {steps : Nat} {status : Status}
    (unfinished : run.state.status? = none)
    (finished : (run.after steps).state = .finished status) :
    ∃ k < steps, (run.after k).state.status? = none ∧ run.after (k + 1) = run.after steps := by
  induction steps with
  | zero => simp [RunState.status?, show run.state = _ from finished] at unfinished
  | succ steps ih =>
    by_cases before : (run.after steps).state.status? = none
    · exact ⟨steps, steps.lt_succ_self, before, rfl⟩
    · -- The run was finished before, so the last step has not changed it.
      obtain ⟨earlier, found⟩ := Option.ne_none_iff_exists'.1 before
      have state := RunState.status?_eq_some_iff.1 found
      have still : run.after (steps + 1) = run.after steps := by
        rw [after_succ, step_of_finished state]
      rw [still] at finished ⊢
      obtain ⟨k, less, open_, last⟩ := ih finished
      exact ⟨k, Nat.lt_succ_of_lt less, open_, last⟩

end Run

end SimplexMethod

import Mathlib.Data.Nat.Count
import SimplexMethod.Proofs.Run.Creation
import SimplexMethod.Proofs.Run.Moves

/-!
# The length of a run

A run ends after at most three more steps than its cap allows pivots, whatever its arithmetic
yields: one step begins the first phase, one leads to the second phase, one ends the run, and all
others make a pivot that is counted. The count never exceeds the cap, and only a run whose count has
reached the cap ends for that reason.

## Main definitions

* `Run.EndsAfter`: how a run ends that makes one step after the other
* `Run.MakesPivot`: a step makes a pivot that is counted

## Main results

* `Run.exists_endsAfter`: a run that is taken to its end makes at most as many steps as remain
* `solve_eq_ok_iff`: a problem is solved by making one step after the other
* `exists_after_of_solve`: a solution is read off a finished run
* `Run.pivots_after`: the number of pivots is the number of steps that make one
* `Run.ends_within_cap`: how long a run is, and what its count of pivots says
-/

namespace SimplexMethod

variable {α : Type} [Scalar α] {problem : LinearProgram α} {config : Config α} {run : Run α}

namespace Run

/-! ## Steps up to the end -/

/-- The run ends after so many steps in the given last state and with the given outcome. The steps
before do not fail and do not finish it, and the last one either fails or finishes it. -/
inductive EndsAfter : Run α → Nat → Run α → Except (PivotError α) (Solution α) → Prop
  | finished {run : Run α} (status : Status) (state : run.state = .finished status) :
      EndsAfter run 0 run (.ok (run.solutionFor status))
  | fails {run : Run α} (error : PivotError α) (unfinished : run.state.status? = none)
      (failure : run.step.failure = some error) : EndsAfter run 1 run.step.run (.error error)
  | step {run last : Run α} {steps : Nat} {outcome : Except (PivotError α) (Solution α)}
      (unfinished : run.state.status? = none) (succeeds : run.step.failure = none)
      (rest : EndsAfter run.step.run steps last outcome) : EndsAfter run (steps + 1) last outcome

/-- Taking a run to its end makes at most as many steps as remain. -/
theorem exists_endsAfter (run : Run α) (detail : Detail) (journal : Array (Event α)) :
    ∃ steps ≤ run.remaining, run.EndsAfter steps (run.finishFrom detail journal).run
      (run.finishFrom detail journal).outcome := by
  fun_induction finishFrom detail journal run with
  | case1 journal run status finished =>
    exact ⟨0, Nat.zero_le _, .finished status (RunState.status?_eq_some_iff.1 finished)⟩
  | case2 journal run unfinished next journal' error fails =>
    -- There is something that remains, because the run is not finished.
    refine ⟨1, ?_, .fails error unfinished fails⟩
    rw [remaining]
    cases state : run.state with
    | initialized => exact Nat.succ_pos _
    | iterating phase => cases phase <;> exact Nat.succ_pos _
    | finished status => simp [state, RunState.status?] at unfinished
  | case3 journal run unfinished next journal' succeeds ih =>
    obtain ⟨steps, bounded, ends⟩ := ih
    have fewer : run.step.run.remaining < run.remaining := remaining_step_lt unfinished succeeds
    exact ⟨steps + 1, Nat.succ_le_of_lt (bounded.trans_lt fewer),
      .step unfinished succeeds ends⟩

/-- A run whose steps lead to a finished state without failure ends with the solution that is read
off that state. -/
theorem endsAfter_of_finished {steps : Nat} {status : Status}
    (succeeds : ∀ k < steps, (run.after k).step.failure = none)
    (finished : (run.after steps).state = .finished status) :
    ∃ k, run.EndsAfter k (run.after steps) (.ok ((run.after steps).solutionFor status)) := by
  induction steps generalizing run with
  | zero => exact ⟨0, .finished status finished⟩
  | succ steps ih =>
    by_cases unfinished : run.state.status? = none
    · rw [← after_step] at finished ⊢
      obtain ⟨k, ends⟩ := ih (fun k less => by
        rw [after_step]
        exact succeeds (k + 1) (Nat.succ_lt_succ less)) finished
      exact ⟨k + 1, .step unfinished (succeeds 0 steps.succ_pos) ends⟩
    · -- The run was finished from the beginning.
      obtain ⟨earlier, found⟩ := Option.ne_none_iff_exists'.1 unfinished
      have state := RunState.status?_eq_some_iff.1 found
      have still : run.after (steps + 1) = run :=
        after_of_finished (show (run.after 0).state = _ from state) (Nat.zero_le _)
      rw [still] at finished ⊢
      exact ⟨0, .finished status finished⟩

/-- After its last step the run is finished, or one of the steps has failed. -/
theorem EndsAfter.finished_or_fails {steps : Nat} {last : Run α}
    {outcome : Except (PivotError α) (Solution α)} (ends : run.EndsAfter steps last outcome) :
    (run.after steps).state.isFinished = true ∨
      ∃ k < steps, (run.after k).step.failure.isSome = true := by
  induction ends with
  | finished status state =>
    left
    rw [after_zero, state]
    rfl
  | fails error unfinished failure =>
    right
    exact ⟨0, Nat.zero_lt_one, by rw [after_zero, failure]; rfl⟩
  | step unfinished succeeds rest ih =>
    rw [← after_step]
    refine ih.imp_right ?_
    rintro ⟨k, less, fails⟩
    exact ⟨k + 1, Nat.succ_lt_succ less, by rwa [← after_step]⟩

/-- A run that ends with a solution is finished, and the solution is read off its last state. -/
theorem EndsAfter.exists_status {steps : Nat} {last : Run α}
    {outcome : Except (PivotError α) (Solution α)} (ends : run.EndsAfter steps last outcome)
    {solution : Solution α} (reads : outcome = .ok solution) :
    ∃ status, (run.after steps).state = .finished status ∧
      solution = (run.after steps).solutionFor status := by
  induction ends with
  | finished status state => exact ⟨status, state, (Except.ok.inj reads).symm⟩
  | fails => cases reads
  | step unfinished succeeds rest ih =>
    rw [← after_step]
    exact ih reads

/-- The last state is the one after all of the steps. -/
theorem EndsAfter.last_eq {steps : Nat} {last : Run α}
    {outcome : Except (PivotError α) (Solution α)} (ends : run.EndsAfter steps last outcome) :
    last = run.after steps := by
  induction ends with
  | finished => rfl
  | fails => rfl
  | step unfinished succeeds rest ih => rwa [after_step] at ih

/-- A run that ends with an error has a step that fails with it. -/
theorem EndsAfter.exists_failure {steps : Nat} {last : Run α}
    {outcome : Except (PivotError α) (Solution α)} (ends : run.EndsAfter steps last outcome)
    {error : PivotError α} (reads : outcome = .error error) :
    ∃ k, (run.after k).step.failure = some error := by
  induction ends with
  | finished => cases reads
  | fails failed unfinished failure =>
    cases reads
    exact ⟨0, failure⟩
  | step unfinished succeeds rest ih =>
    obtain ⟨k, failure⟩ := ih reads
    rw [after_step] at failure
    exact ⟨k + 1, failure⟩

/-- A run ends in one way only. -/
theorem EndsAfter.unique {first second : Nat} {last other : Run α}
    {outcome outcome' : Except (PivotError α) (Solution α)}
    (left : run.EndsAfter first last outcome) (right : run.EndsAfter second other outcome') :
    last = other ∧ outcome = outcome' := by
  -- Whether a run is finished, fails or goes on is decided by the run alone.
  induction left generalizing second with
  | finished status state =>
    cases right with
    | finished status' state' =>
      obtain rfl := RunState.finished.inj (state.symm.trans state')
      exact ⟨rfl, rfl⟩
    | fails error unfinished | step unfinished => simp [state, RunState.status?] at unfinished
  | fails error unfinished failure =>
    cases right with
    | finished status state => simp [state, RunState.status?] at unfinished
    | fails error' _ failure' =>
      exact ⟨rfl, by rw [Option.some.inj (failure.symm.trans failure')]⟩
    | step _ succeeds => simp [failure] at succeeds
  | step unfinished succeeds rest ih =>
    cases right with
    | finished status state => simp [state, RunState.status?] at unfinished
    | fails error _ failure => simp [failure] at succeeds
    | step _ _ rest' => exact ih rest'

theorem EndsAfter.outcome_eq {first second : Nat} {last other : Run α}
    {outcome outcome' : Except (PivotError α) (Solution α)}
    (left : run.EndsAfter first last outcome) (right : run.EndsAfter second other outcome') :
    outcome = outcome' :=
  (left.unique right).2

/-- How a run ends does not depend on the journal that is kept. -/
theorem run_finishFrom (run : Run α) (detail : Detail) (journal : Array (Event α)) :
    (run.finishFrom detail journal).run = (run.finish detail).run ∧
      (run.finishFrom detail journal).outcome = (run.finish detail).outcome := by
  obtain ⟨_, -, left⟩ := run.exists_endsAfter detail journal
  obtain ⟨_, -, right⟩ := run.exists_endsAfter detail #[]
  exact left.unique right

/-! ## Counted pivots -/

/-- The next step makes a pivot inside of a phase and does not fail. The pivots that drive
artificial columns out of the basis are made between the phases. -/
def MakesPivot (run : Run α) : Prop :=
  run.step.failure = none ∧ ∃ phase row col, run.state = .iterating phase ∧
    run.step.run.state = .iterating phase ∧
      run.tableau.pivot row col run.config.tolerance = .ok run.step.run.tableau

open Classical in
/-- Exactly the steps that make a pivot inside of a phase count. -/
theorem pivots_step (run : Run α) :
    run.step.run.pivots = run.pivots + if run.MakesPivot then 1 else 0 := by
  have move := run.move_step
  split
  · rename_i makes
    obtain ⟨succeeds, phase, -, -, before, after, -⟩ := makes
    rw [succeeds] at move
    obtain ⟨-, -, -, -, -, -, counted⟩ := move.exists_pivot before after
    exact counted
  · rename_i idle
    unfold MakesPivot at idle
    generalize run.step.run = next, run.step.failure = failure at move idle ⊢
    cases move with
    | pivot phase row col next state enters below leaves made =>
      exact absurd ⟨rfl, phase, row, col, state, state, made⟩ idle
    | _ => rfl

open Classical in
theorem pivots_after (run : Run α) (steps : Nat) :
    (run.after steps).pivots =
      run.pivots + Nat.count (fun k => (run.after k).MakesPivot) steps := by
  induction steps with
  | zero => rfl
  | succ steps ih => rw [after_succ, pivots_step, ih, Nat.count_succ, Nat.add_assoc]

/-- A run never makes more pivots than its cap allows. -/
theorem pivots_after_le_cap (start : run.pivots ≤ run.cap) (steps : Nat) :
    (run.after steps).pivots ≤ run.cap := by
  induction steps with
  | zero => exact start
  | succ steps ih =>
    have move := run.move_after steps
    have cap_eq := run.after_cap steps
    generalize run.after (steps + 1) = next, (run.after steps).step.failure = failure at move ⊢
    -- Only a pivot changes the count, and it is made below the cap.
    cases move with
    | pivot phase row col next state enters below => exact cap_eq ▸ below
    | _ => exact ih

/-- The step that ends a run does not fail. -/
theorem Move.failure_eq_none {next : Run α} {failure : Option (PivotError α)} {status : Status}
    (move : run.Move next failure) (unfinished : run.state.status? = none)
    (finished : next.state = .finished status) : failure = none := by
  cases move with
  | refusePivot | refuseDriveOut =>
    rw [show run.state = .finished status from finished] at unfinished
    cases unfinished
  | _ => rfl

/-- A run that ends because of its cap has made all pivots that the cap allows. -/
theorem pivots_of_capReached (unfinished : run.state.status? = none)
    (start : run.pivots ≤ run.cap) {steps : Nat}
    (reached : (run.after steps).state = .finished .capReached) :
    (run.after steps).pivots = run.cap := by
  refine le_antisymm (pivots_after_le_cap start steps) ?_
  obtain ⟨k, -, before, last⟩ := exists_finishing_step unfinished reached
  have move := run.move_after k
  rw [last] at move
  rw [move.failure_eq_none before reached] at move
  obtain ⟨last_eq, -, -, -, -, full⟩ := move.endsWith before reached
  rw [last_eq, ← run.after_cap k]
  exact full

open Classical in
/-- Whatever the arithmetic yields, a run that makes one step after the other is finished, or one of
its steps fails, after at most three more steps than its cap; and so it is when the run is taken to
its end. The count of pivots is the number of steps that make one inside of a phase, and at most the
cap. A finished run stays as it is, and a run that ends because of its cap has made all pivots that
the cap allows. -/
theorem ends_within_cap (created : Run.create problem config = .ok run) :
    (∃ steps ≤ run.cap + 3, (run.after steps).state.isFinished = true ∨
      ∃ k < steps, (run.after k).step.failure.isSome = true) ∧
    (∀ detail, ∃ steps ≤ run.cap + 3,
      run.EndsAfter steps (run.finish detail).run (run.finish detail).outcome) ∧
    ∀ steps,
      (run.after steps).pivots ≤ run.cap ∧
      (run.after steps).pivots = Nat.count (fun k => (run.after k).MakesPivot) steps ∧
      (∀ status, (run.after steps).state = .finished status →
        ∀ later ≥ steps, run.after later = run.after steps) ∧
      ((run.after steps).state = .finished .capReached → (run.after steps).pivots = run.cap) := by
  obtain ⟨-, -, rfl⟩ := create_eq_ok_iff.1 created
  have ends (detail : Detail) := exists_endsAfter (initial problem config) detail #[]
  refine ⟨?_, ends, fun steps => ⟨pivots_after_le_cap (Nat.zero_le _) steps, ?_,
    fun status finished later le => after_of_finished finished le,
    pivots_of_capReached rfl (Nat.zero_le _)⟩⟩
  · obtain ⟨steps, bounded, ends⟩ := ends .nothing
    exact ⟨steps, bounded, ends.finished_or_fails⟩
  · rw [pivots_after]
    exact Nat.zero_add _

end Run

/-- A problem without a run is not solved. -/
theorem solve_eq_error_of_create {error : SolveError α}
    (created : Run.create problem config = .error error) : solve problem config = .error error := by
  rw [solve, solveWithJournal, created]

/-- What a solve gives is what its run ends with. -/
theorem exists_endsAfter_of_create (created : Run.create problem config = .ok run) :
    ∃ steps last outcome, run.EndsAfter steps last outcome ∧
      solve problem config = outcome.mapError SolveError.pivot := by
  obtain ⟨steps, -, ends⟩ := run.exists_endsAfter .nothing
    (run.creationEvents.filter Detail.nothing.keeps).toArray
  refine ⟨steps, _, _, ends, ?_⟩
  rw [solve, solveWithJournal, created]
  dsimp only
  split <;> rename_i outcome <;> rw [outcome] <;> rfl

/-- A problem is solved by making one step of its run after the other. -/
theorem solve_eq_ok_iff {solution : Solution α} : solve problem config = .ok solution ↔
    ∃ run, Run.create problem config = .ok run ∧
      ∃ steps last, run.EndsAfter steps last (.ok solution) := by
  cases created : Run.create problem config with
  | error error =>
    rw [solve_eq_error_of_create created]
    simp
  | ok run =>
    obtain ⟨steps, last, outcome, ends, solved⟩ := exists_endsAfter_of_create created
    rw [solved]
    constructor
    · intro reads
      cases outcome with
      | error error => cases reads
      | ok found =>
        cases reads
        exact ⟨run, rfl, steps, last, ends⟩
    · rintro ⟨_, ⟨⟩, _, _, right⟩
      rw [ends.outcome_eq right]
      rfl

/-- A solution of a problem is read off a finished run of it. -/
theorem exists_after_of_solve {solution : Solution α}
    (created : Run.create problem config = .ok run)
    (solved : solve problem config = .ok solution) :
    ∃ steps status, (run.after steps).state = .finished status ∧
      solution = (run.after steps).solutionFor status := by
  obtain ⟨other, created', steps, last, ends⟩ := solve_eq_ok_iff.1 solved
  obtain rfl : run = other := Except.ok.inj (created.symm.trans created')
  exact ⟨steps, ends.exists_status rfl⟩

/-- An optimum of a problem is read off a run that is finished with that status. -/
theorem exists_optimum_of_solve {solution : Solution α}
    (created : Run.create problem config = .ok run)
    (solved : solve problem config = .ok solution) (optimal : solution.status = .optimal) :
    ∃ steps, (run.after steps).state = .finished .optimal ∧
      solution = (run.after steps).optimum := by
  obtain ⟨steps, status, finished, rfl⟩ := exists_after_of_solve created solved
  obtain rfl : status = .optimal := by cases status <;> first | rfl | cases optimal
  exact ⟨steps, finished, rfl⟩

/-- A problem on which the rule of the most negative cell comes back to its first basis. -/
def cyclingProblem : LinearProgram Float where
  sense := .maximize
  objective := [10, -57, -9, -24]
  constraints := [⟨[0.5, -5.5, -2.5, 9], .atMost, 0⟩, ⟨[0.5, -1.5, -0.5, 1], .atMost, 0⟩,
    ⟨[1, 0, 0, 0], .atMost, 1⟩]

/-- The usual tolerance, with a rule and a cap. -/
def capped (rule : PivotRule) (cap : Nat) : Config Float :=
  { Config.standard with rule, maxPivots := some cap }

/-- A problem whose first pivot makes a cell of another row infinite. -/
def overflowingProblem : LinearProgram Float where
  sense := .maximize
  objective := [1, 0]
  constraints := [⟨[1e-8, -1e308], .atMost, 1⟩, ⟨[1, 0], .atMost, 1e9⟩]

/-- On double-precision numbers, a run that cycles until it reaches its cap, and a run that asks for
a pivot on an infinite cell, which fails. -/
theorem ends_within_cap_cyclingProblem :
    (∃ run, Run.create cyclingProblem (capped .dantzig 12) = .ok run ∧
      (run.after 14).state = .finished .capReached ∧ (run.after 14).pivots = 12 ∧
        ∀ later ≥ 14, run.after later = run.after 14) ∧
    ∃ run, Run.create overflowingProblem .standard = .ok run ∧
      (run.after 2).step.failure.isSome = true ∧ (run.after 3).pivots ≤ run.cap := by
  have cycling : Run.create cyclingProblem (capped .dantzig 12) =
      .ok (.initial cyclingProblem (capped .dantzig 12)) :=
    Run.create_eq_ok_initial (by decide +kernel) (by decide +kernel)
  have finished : ((Run.initial cyclingProblem (capped .dantzig 12)).after 14).state =
      .finished .capReached := by decide +kernel
  have overflowing : Run.create overflowingProblem .standard =
      .ok (.initial overflowingProblem .standard) :=
    Run.create_eq_ok_initial (by decide +kernel) (by decide +kernel)
  obtain ⟨-, -, still, full⟩ := (Run.ends_within_cap cycling).2.2 14
  exact ⟨⟨_, cycling, finished, full finished, still _ finished⟩, _, overflowing,
    by decide +kernel, ((Run.ends_within_cap overflowing).2.2 3).1⟩

end SimplexMethod

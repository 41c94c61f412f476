import SimplexMethod.Run.Step

/-!
# Runs to the end

Every step that does not fail brings a run closer to its end: it enters a later phase, makes one of
the pivots that the cap allows, or finishes the run. So a run can be taken to its end without any
bound other than its own cap.

## Main definitions

* `Run.remaining`: the number of steps that a run can still make
* `Run.finish`: the run taken to its end

## Main results

* `Run.remaining_step_lt`: a step that does not fail leaves fewer steps to be made
-/

namespace SimplexMethod

namespace Run

variable {α : Type} [Scalar α]

/-- The number of steps that the run can still make, counting the pivots that its cap allows. -/
def remaining (run : Run α) : Nat :=
  match run.state with
  | .initialized => run.cap - run.pivots + 3
  | .iterating .one => run.cap - run.pivots + 2
  | .iterating .two => run.cap - run.pivots + 1
  | .finished _ => 0

omit [Scalar α] in
@[simp] theorem remaining_stop (run : Run α) (status : Status) (event : Event α) :
    (run.stop status event).run.remaining = 0 := by
  simp [stop, remaining]

theorem remaining_start_lt {run : Run α} (state : run.state = .initialized) :
    run.start.run.remaining < run.remaining := by
  unfold start
  split <;> simp [enterPhaseOne, enterPhaseTwo, remaining, cap, state]

theorem remaining_finishPhaseOne_lt {run : Run α} (state : run.state = .iterating .one)
    (succeeds : run.finishPhaseOne.failure = none) :
    run.finishPhaseOne.run.remaining < run.remaining := by
  have positive : 0 < run.remaining := by simp [remaining, state]
  revert succeeds
  unfold finishPhaseOne
  dsimp only
  split
  · exact fun _ => by simpa using positive
  · split
    · simp
    · simp [enterPhaseTwo, remaining, cap, state]

theorem remaining_finishPhase_lt {run : Run α} {phase : Phase}
    (state : run.state = .iterating phase) (succeeds : (run.finishPhase phase).failure = none) :
    (run.finishPhase phase).run.remaining < run.remaining := by
  cases phase with
  | one => exact remaining_finishPhaseOne_lt state succeeds
  | two =>
    rw [finishPhase, remaining_stop]
    simp [remaining, state]

theorem remaining_pivotAt_lt {run : Run α} {phase : Phase} {row col : Nat}
    (state : run.state = .iterating phase) (below : run.pivots < run.cap)
    (succeeds : (run.pivotAt row col).failure = none) :
    (run.pivotAt row col).run.remaining < run.remaining := by
  revert succeeds
  unfold pivotAt
  dsimp only
  split
  · simp
  · unfold cap at below
    cases phase <;> simp only [remaining, state, cap] <;> omega

theorem remaining_iterate_lt {run : Run α} {phase : Phase}
    (state : run.state = .iterating phase) (succeeds : (run.iterate phase).failure = none) :
    (run.iterate phase).run.remaining < run.remaining := by
  have positive : 0 < run.remaining := by cases phase <;> simp [remaining, state]
  revert succeeds
  unfold iterate
  split
  · exact remaining_finishPhase_lt state
  · split
    · exact fun _ => by simpa using positive
    · split
      · exact fun _ => by simpa using positive
      · exact remaining_pivotAt_lt state (by omega)

/-- A step that does not fail leaves fewer steps to be made. -/
theorem remaining_step_lt {run : Run α} (unfinished : run.state.status? = none)
    (succeeds : run.step.failure = none) : run.step.run.remaining < run.remaining := by
  revert succeeds
  unfold step
  split
  · rename_i state
    exact fun _ => remaining_start_lt state
  · rename_i phase state
    exact remaining_iterate_lt state
  · rename_i status state
    simp [state, RunState.status?] at unfinished

end Run

/-- A run taken to its end, the events that were kept, and the solution or the pivot that failed. -/
structure Ending (α : Type) where
  run : Run α
  journal : Array (Event α)
  outcome : Except (PivotError α) (Solution α)

namespace Run

variable {α : Type} [Scalar α]

/-- Make steps until the run is finished or a step fails, and add the events to a journal. -/
def finishFrom (detail : Detail) (journal : Array (Event α)) (run : Run α) : Ending α :=
  match _unfinished : run.state.status? with
  | some status => ⟨run, journal, .ok (run.solutionFor status)⟩
  | none =>
    -- The step is made once; its run, its events and its failure are all needed.
    let next := run.step
    let journal := journal ++ next.events.filter detail.keeps
    match _succeeds : next.failure with
    | some error => ⟨next.run, journal, .error error⟩
    | none => finishFrom detail journal next.run
termination_by run.remaining
decreasing_by exact remaining_step_lt _unfinished _succeeds

/-- Take the run to its end. -/
def finish (run : Run α) (detail : Detail) : Ending α := run.finishFrom detail #[]

end Run

end SimplexMethod

import SimplexMethod.Proofs.Problem.Respelling
import SimplexMethod.Proofs.Run.Identity

/-!
# Solving another spelling of a problem

The steps of a run do not look at the note whether the objective has changed its sign; only reading
off the solution does. So two spellings of a problem have the same run up to this note, and their
solutions differ in the sign of the objective at most. With numbers that change their signs exactly
this holds of every bit, whatever is rounded on the way.

## Main definitions

* `Run.withNegated`: the run with another note on the sign of the objective
* `OppositeObjectives`: one objective is the other one with its sign changed

## Main results

* `Run.step_withNegated`, `Run.EndsAfter.withNegated`: the run makes the same steps and ends in the
  same way under either note
* `solve_respelling`: how two spellings of a problem are solved
-/

namespace SimplexMethod

variable {α : Type}

/-! ## Runs under another note -/

namespace Run

/-- The run with another note on the sign of its objective. -/
def withNegated (run : Run α) (negated : Bool) : Run α :=
  { run with form := run.form.withNegated negated }

section Steps

variable (run : Run α) (negated : Bool)

@[simp] theorem state_withNegated : (run.withNegated negated).state = run.state := rfl

@[simp] theorem tableau_withNegated : (run.withNegated negated).tableau = run.tableau := rfl

@[simp] theorem config_withNegated : (run.withNegated negated).config = run.config := rfl

@[simp] theorem pivots_withNegated : (run.withNegated negated).pivots = run.pivots := rfl

@[simp] theorem cap_withNegated : (run.withNegated negated).cap = run.cap := rfl

variable [Scalar α]

@[simp] theorem enteringColumn_withNegated (phase : Phase) :
    (run.withNegated negated).enteringColumn phase = run.enteringColumn phase := by
  cases phase <;> rfl

@[simp] theorem start_withNegated : (run.withNegated negated).start =
    { run.start with run := run.start.run.withNegated negated } := by
  unfold start withNegated StandardForm.withNegated StandardForm.hasArtificials
  dsimp only
  split <;> rfl

@[simp] theorem pivotAt_withNegated (row col : Nat) : (run.withNegated negated).pivotAt row col =
    { run.pivotAt row col with run := (run.pivotAt row col).run.withNegated negated } := by
  simp only [pivotAt, tableau_withNegated, config_withNegated]
  cases run.tableau.pivot row col run.config.tolerance <;> rfl

@[simp] theorem finishPhase_withNegated (phase : Phase) :
    (run.withNegated negated).finishPhase phase =
      { run.finishPhase phase with run := (run.finishPhase phase).run.withNegated negated } := by
  cases phase with
  | two => rfl
  | one =>
    unfold finishPhase finishPhaseOne withNegated StandardForm.withNegated
    dsimp only
    split
    · rfl
    · cases (run.tableau.driveOut run.form.firstArtificial run.config.tolerance).failure <;> rfl

@[simp] theorem iterate_withNegated (phase : Phase) : (run.withNegated negated).iterate phase =
    { run.iterate phase with run := (run.iterate phase).run.withNegated negated } := by
  simp only [iterate, enteringColumn_withNegated, cap_withNegated, pivots_withNegated,
    tableau_withNegated, config_withNegated, finishPhase_withNegated, pivotAt_withNegated]
  cases run.enteringColumn phase with
  | none => rfl
  | some col =>
    dsimp only
    split
    · rfl
    · cases run.tableau.leavingRow col run.config.tolerance <;> rfl

/-- No step looks at the note. -/
theorem step_withNegated : (run.withNegated negated).step =
    { run.step with run := run.step.run.withNegated negated } := by
  simp only [step, state_withNegated, start_withNegated, iterate_withNegated]
  cases run.state <;> rfl

end Steps

variable [Scalar α] {run last : Run α} {steps : Nat}

/-- The run ends after as many steps under either note, with the same error or with a solution that
is read off the same tableau. -/
theorem EndsAfter.withNegated {outcome : Except (PivotError α) (Solution α)}
    (ends : run.EndsAfter steps last outcome) (negated : Bool) :
    (∃ error, outcome = .error error ∧
      (run.withNegated negated).EndsAfter steps (last.withNegated negated) (.error error)) ∨
    ∃ status, outcome = .ok (last.solutionFor status) ∧
      (run.withNegated negated).EndsAfter steps (last.withNegated negated)
        (.ok ((last.withNegated negated).solutionFor status)) := by
  induction ends with
  | finished status state => exact .inr ⟨status, rfl, .finished status state⟩
  | @fails run error unfinished failure =>
    have step := run.step_withNegated negated
    have failure' : (run.withNegated negated).step.failure = some error := by
      rw [step]
      exact failure
    have ends := EndsAfter.fails error (show (run.withNegated negated).state.status? = none from
      unfinished) failure'
    rw [step] at ends
    exact .inl ⟨error, rfl, ends⟩
  | @step run last steps outcome unfinished succeeds rest ih =>
    have step := run.step_withNegated negated
    have prepend {result : Except (PivotError α) (Solution α)}
        (ends :
          (run.step.run.withNegated negated).EndsAfter steps (last.withNegated negated) result) :
        (run.withNegated negated).EndsAfter (steps + 1) (last.withNegated negated) result := by
      refine .step unfinished ?_ ?_ <;> rw [step]
      · exact succeeds
      · exact ends
    rcases ih with ⟨error, same, ends⟩ | ⟨status, same, ends⟩
    · exact .inl ⟨error, same, prepend ends⟩
    · exact .inr ⟨status, same, prepend ends⟩

end Run

/-! ## Objectives with opposite signs -/

variable [Scalar α]

/-- The objectives of two solutions are the negatives of each other. Both are zero if they are zero
to tolerance, and both are missing if there is no optimum. -/
def OppositeObjectives (tolerance : α) : Option α → Option α → Prop
  | none, none => True
  | some value, some other =>
    value = 0 ∧ other = 0 ∨
      isZero value tolerance = false ∧ isZero other tolerance = false ∧ other = -value
  | _, _ => False

variable [LawfulSign α]

theorem isZero_neg (value tolerance : α) : isZero (-value) tolerance = isZero value tolerance := by
  rw [isZero, isZero, LawfulSign.abs_neg]

theorem oppositeObjectives_clean (value tolerance : α) :
    OppositeObjectives tolerance
      (some (clean value tolerance)) (some (clean (-value) tolerance)) := by
  unfold clean
  rw [isZero_neg]
  cases zero : isZero value tolerance with
  | true => exact .inl ⟨rfl, rfl⟩
  | false => exact .inr ⟨zero, (isZero_neg value tolerance).trans zero, rfl⟩

/-- Under the opposite note the solution has the opposite objective. -/
theorem Run.solutionFor_withNegated (run : Run α) (status : Status) :
    let solution := run.solutionFor status
    let other := (run.withNegated (!run.form.negated)).solutionFor status
    other.status = solution.status ∧ other.values = solution.values ∧
      other.pivots = solution.pivots ∧
      OppositeObjectives run.config.tolerance solution.objective other.objective := by
  cases status with
  | optimal =>
    refine ⟨rfl, rfl, rfl, ?_⟩
    let value := run.tableau.objectiveValue
    let tolerance := run.config.tolerance
    change OppositeObjectives tolerance
      (some (clean (if run.form.negated then -value else value) tolerance))
      (some (clean (if !run.form.negated then -value else value) tolerance))
    cases run.form.negated with
    | false => exact oppositeObjectives_clean value tolerance
    | true =>
      have opposite := oppositeObjectives_clean (-value) tolerance
      rwa [LawfulSign.neg_neg] at opposite
  | unbounded | infeasible | capReached => exact ⟨rfl, rfl, rfl, trivial⟩

/-- Two spellings of a problem without defects are solved in the same way: with the same error, or
with solutions of the same status, the same values and as many pivots. The objectives are the same,
or opposite if the sense is swapped. The problems may have any names. -/
theorem solve_respelling {first second : LinearProgram α} {swapped : Bool}
    (valid : first.validate = .ok ()) (respelled : first.IsRespelling second swapped)
    (config : Config α) :
    (∃ error, solve first config = .error error ∧ solve second config = .error error) ∨
    ∃ solution other, solve first config = .ok solution ∧ solve second config = .ok other ∧
      other.status = solution.status ∧ other.values = solution.values ∧
      other.pivots = solution.pivots ∧
      if swapped then
        OppositeObjectives config.tolerance solution.objective other.objective
      else other.objective = solution.objective := by
  have wellFormed := LinearProgram.defect?_eq_none_iff.1 (LinearProgram.validate_eq_ok_iff.1 valid)
  have wellFormed' := respelled.isWellFormed wellFormed
  cases fault : config.fault? with
  | some fault' =>
    left
    refine ⟨.invalidConfig fault', ?_, ?_⟩ <;>
    · refine solve_eq_error_of_create ?_
      rw [Run.create, fault]
  | none =>
    have created := Run.create_eq_ok_initial fault (LinearProgram.validate_eq_ok_iff.1 valid)
    have created' :=
      Run.create_eq_ok_initial fault (LinearProgram.defect?_eq_none_iff.2 wellFormed')
    let run := Run.initial first config
    have same : Run.initial second config = run.withNegated (run.form.negated ^^ swapped) := by
      rw [Run.initial, respelled.ofProblem_eq wellFormed, respelled.standardTableau_eq wellFormed]
      rfl
    rw [same] at created'
    obtain ⟨steps, last, outcome, ends, solved⟩ := exists_endsAfter_of_create created
    obtain ⟨_, _, outcome', ends', solved'⟩ := exists_endsAfter_of_create created'
    rcases ends.withNegated (run.form.negated ^^ swapped) with
      ⟨error, rfl, other_ends⟩ | ⟨status, rfl, other_ends⟩
    · rw [ends'.outcome_eq other_ends] at solved'
      exact .inl ⟨_, solved, solved'⟩
    · rw [ends'.outcome_eq other_ends] at solved'
      refine .inr ⟨_, _, solved, solved', ?_⟩
      have form_eq : last.form = run.form := by rw [ends.last_eq, Run.after_form]
      have config_eq : last.config = config := by rw [ends.last_eq, Run.after_config]; rfl
      rw [← form_eq]
      cases swapped with
      | false =>
        rw [Bool.xor_false]
        exact ⟨rfl, rfl, rfl, rfl⟩
      | true =>
        rw [Bool.xor_true, if_pos rfl, ← config_eq]
        exact last.solutionFor_withNegated status

/-- The problem with rounded coefficients, with two of its constraints and its objective in the
other spelling. -/
def respelledProblem : LinearProgram Float where
  name := "respelled"
  sense := .maximize
  objective := [-1, 2]
  constraints := [⟨[0.1, 0.2], .equal, 0.3⟩, ⟨[-0.2, -0.4], .equal, -0.6⟩, ⟨[-1, 1], .atMost, 1⟩]

/-- Both spellings have an optimum, with the same bits in all values. -/
theorem solve_respelling_roundedProblem :
    roundedProblem.validate = .ok () ∧ roundedProblem.IsRespelling respelledProblem true ∧
      ∃ solution other, solve roundedProblem .standard = .ok solution ∧
        solve respelledProblem .standard = .ok other ∧ other.status = solution.status ∧
        other.values = solution.values ∧ other.pivots = solution.pivots ∧
        OppositeObjectives Config.standard.tolerance solution.objective other.objective := by
  have valid : roundedProblem.validate = .ok () :=
    LinearProgram.validate_eq_ok_iff.2 (by decide +kernel)
  have respelled : roundedProblem.IsRespelling respelledProblem true := by
    refine ⟨.cons (.inl rfl) (.cons (.inr ⟨by decide +kernel, rfl⟩) (.cons
      (.inr ⟨by decide +kernel, ?_⟩) .nil)), rfl, ?_⟩ <;> rfl
  have solved : (solve roundedProblem .standard).isOk = true := by decide +kernel
  refine ⟨valid, respelled, ?_⟩
  rcases solve_respelling valid respelled .standard with ⟨error, failed, -⟩ | same
  · rw [failed] at solved
    cases solved
  · exact same

end SimplexMethod

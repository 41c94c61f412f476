import SimplexMethod.Proofs.Run.Sound

/-!
# The numbers that a run compares with its tolerance

A step asks of certain numbers whether they are zero, positive or negative, and reading off an
optimum rounds certain numbers to zero. If every one of them is zero or has a magnitude above the
tolerance, the tolerance changes no answer.

## Main definitions

* `Run.comparedNumbers`: the numbers that the next step compares with the tolerance
* `Run.readNumbers`: the numbers that are rounded when an optimum is read off
* `Run.StepsSeparated`: all numbers compared in the course of a run are separated

## Main results

* `Run.StepsSeparated.nonneg_of_enteringColumn_eq_none`,
  `Run.StepsSeparated.nonneg_of_bland`: cells that are not negative to tolerance are not negative
-/

namespace SimplexMethod

section Numbers

variable {α : Type} [Scalar α]

/-- The cells that a rule compares with the tolerance. -/
def PivotRule.comparedCells (rule : PivotRule) (cells : List α) (tolerance : α) : List α :=
  match rule with
  | dantzig => cells
  | bland => throughFirst (isNegative · tolerance) cells

/-- The numbers that the ratio test compares with the tolerance: the cells of the column, and
differences of ratios. -/
def Tableau.ratioTestNumbers (tableau : Tableau α) (col : Nat) (tolerance : α) : List α :=
  tableau.constraintRows.map (·.cell col) ++
    ratioDifferences tolerance none (tableau.limitingRows col tolerance)

namespace Run

/-- The cells of the objective row that belong to eligible columns. -/
def eligibleCells (run : Run α) (phase : Phase) : List α :=
  run.tableau.objectiveCells.take (run.numEligible phase)

/-- The numbers that the next step compares with the tolerance. -/
def comparedNumbers (run : Run α) : List α :=
  let tolerance := run.config.tolerance
  match run.state with
  | .initialized | .finished _ => []
  | .iterating phase =>
    run.config.rule.comparedCells (run.eligibleCells phase) tolerance ++
      match run.enteringColumn phase with
      | some col =>
        if run.cap ≤ run.pivots then []
        else
          run.tableau.ratioTestNumbers col tolerance ++
            -- The pivot looks at its cell once more.
            ((run.tableau.leavingRow col tolerance).map (run.tableau.cell · col)).toList
      | none =>
        match phase with
        | .two => []
        | .one =>
          run.tableau.objectiveValue ::
            if isNegative run.tableau.objectiveValue tolerance then []
            else
              Tableau.driveOutNumbers run.form.firstArtificial tolerance
                (List.range' 1 run.tableau.numConstraints) run.tableau

/-- The numbers that are rounded to zero when an optimum is read off. -/
def readNumbers (run : Run α) : List α :=
  (run.tableau.basicRows.filter fun basic => basic.1 < run.form.numDecision).map
      (fun basic => run.tableau.rhsOf basic.2) ++
    [if run.form.negated then -run.tableau.objectiveValue else run.tableau.objectiveValue]

end Run

end Numbers

namespace Run

/-- Every number that a step of the run compares with the tolerance is separated. -/
def StepsSeparated (run : Run Rat) : Prop :=
  ∀ steps, ∀ value ∈ (run.after steps).comparedNumbers, IsSeparated run.config.tolerance value

/-- Every number that is rounded when an optimum of the run is read off is separated. -/
def ReadingSeparated (run : Run Rat) : Prop :=
  ∀ steps, (run.after steps).state = .finished .optimal →
    ∀ value ∈ (run.after steps).readNumbers, IsSeparated run.config.tolerance value

variable {problem : LinearProgram Rat} {run : Run Rat}

/-- A finished run compares nothing, so the steps up to its end decide. -/
theorem stepsSeparated_of_finished {steps : Nat} {status : Status}
    (finished : (run.after steps).state = .finished status)
    (separated : ∀ k < steps, ∀ value ∈ (run.after k).comparedNumbers,
      IsSeparated run.config.tolerance value) : run.StepsSeparated := by
  intro k value member
  rcases Nat.lt_or_ge k steps with less | le
  · exact separated k less value member
  · rw [after_of_finished finished le, comparedNumbers, finished] at member
    cases member

theorem readingSeparated_of_finished {steps : Nat} {status : Status}
    (finished : (run.after steps).state = .finished status)
    (separated : ∀ value ∈ (run.after steps).readNumbers,
      IsSeparated run.config.tolerance value)
    (unfinished : ∀ k < steps, (run.after k).state ≠ .finished .optimal) :
    run.ReadingSeparated := by
  intro k state
  rcases Nat.lt_or_ge k steps with less | le
  · exact absurd state (unfinished k less)
  · rwa [after_of_finished finished le]

theorem getElem_mem_throughFirst {α : Type} {hits : α → Bool} {values : List α} {index : Nat}
    {value : α} (at_index : values[index]? = some value)
    (missed : ∀ j < index, ∀ earlier, values[j]? = some earlier → hits earlier = false) :
    value ∈ throughFirst hits values := by
  induction values generalizing index with
  | nil => cases at_index
  | cons first values ih =>
    cases index with
    | zero =>
      obtain rfl : first = value := Option.some.inj at_index
      unfold throughFirst
      split <;> exact List.mem_cons_self
    | succ index =>
      have skipped := missed 0 index.succ_pos first rfl
      have later := ih at_index fun j less earlier at_j => missed (j + 1) (by omega) earlier at_j
      simp [throughFirst, skipped, later]

namespace StepsSeparated

variable {phase : Phase} {steps : Nat}

private theorem comparedCells (separated : run.StepsSeparated)
    (state : (run.after steps).state = .iterating phase) {value : Rat}
    (member : value ∈ run.config.rule.comparedCells ((run.after steps).eligibleCells phase)
      run.config.tolerance) : IsSeparated run.config.tolerance value := by
  refine separated steps value ?_
  rw [comparedNumbers, state]
  exact List.mem_append_left _ (by rwa [after_config])

/-- When no column enters, no eligible cell of the objective row is negative. -/
theorem nonneg_of_enteringColumn_eq_none (separated : run.StepsSeparated)
    (sound : run.IsSound problem) (state : (run.after steps).state = .iterating phase)
    (priced : (run.after steps).enteringColumn phase = none) {col : Nat}
    (eligible : col < (run.after steps).numEligible phase) :
    0 ≤ (run.after steps).tableau.cell 0 col := by
  have current := isSound_after sound steps
  have member := List.mem_of_getElem? (current.eligible_getElem? eligible)
  have above := current.enteringColumn_eq_none priced eligible
  rw [after_config] at above
  refine (separated.comparedCells state ?_).nonneg above
  cases rule : run.config.rule with
  | dantzig => exact member
  | bland =>
    rw [PivotRule.comparedCells, throughFirst_eq_self]
    · exact member
    · intro value listed
      have := PivotRule.not_isNegative_of_enteringColumn_eq_none priced listed
      rwa [after_config] at this

/-- No eligible cell before the one that the rule of the first negative cell takes is negative. -/
theorem nonneg_of_bland (separated : run.StepsSeparated) (sound : run.IsSound problem)
    (rule : run.config.rule = .bland) (state : (run.after steps).state = .iterating phase)
    {col : Nat} (enters : (run.after steps).enteringColumn phase = some col) {j : Nat}
    (before : j < col) : 0 ≤ (run.after steps).tableau.cell 0 j := by
  have current := isSound_after sound steps
  obtain ⟨eligible, -⟩ := current.enteringColumn_eq_some enters
  rw [enteringColumn, after_config, rule] at enters
  have missed {i : Nat} (earlier : i < col) {value : Rat}
      (at_i : ((run.after steps).eligibleCells phase)[i]? = some value) :
      isNegative value run.config.tolerance = false :=
    PivotRule.not_isNegative_of_bland enters earlier at_i
  have at_j := current.eligible_getElem? (before.trans eligible)
  have above : -run.config.tolerance ≤ (run.after steps).tableau.cell 0 j := by
    rw [← not_lt, ← isNegative_iff, missed before at_j]
    exact Bool.false_ne_true
  refine (separated.comparedCells state ?_).nonneg above
  rw [rule, PivotRule.comparedCells]
  exact getElem_mem_throughFirst at_j fun i less _ at_i => missed (less.trans before) at_i

variable {col : Nat}

private theorem ratioTestNumbers (separated : run.StepsSeparated)
    (state : (run.after steps).state = .iterating phase)
    (enters : (run.after steps).enteringColumn phase = some col)
    (below : (run.after steps).pivots < run.cap) {value : Rat}
    (member : value ∈ (run.after steps).tableau.ratioTestNumbers col run.config.tolerance) :
    IsSeparated run.config.tolerance value := by
  refine separated steps value ?_
  rw [comparedNumbers, state]
  simp only [enters, after_cap, after_config, if_neg (not_le.2 below)]
  exact List.mem_append_right _ (List.mem_append_left _ member)

/-- The cells of an entering column are separated. -/
theorem cell_of_enters (separated : run.StepsSeparated)
    (state : (run.after steps).state = .iterating phase)
    (enters : (run.after steps).enteringColumn phase = some col)
    (below : (run.after steps).pivots < run.cap) {row : Nat}
    (row_mem : row ∈ (run.after steps).tableau.constraintIndices) :
    IsSeparated run.config.tolerance ((run.after steps).tableau.cell row col) := by
  refine separated.ratioTestNumbers state enters below (List.mem_append_left _ ?_)
  exact List.mem_map.2 ⟨_, Tableau.mem_constraintRows.2 ⟨row, row_mem, rfl⟩, rfl⟩

/-- The differences of ratios that the ratio test looks at are separated. -/
theorem difference_of_enters (separated : run.StepsSeparated)
    (state : (run.after steps).state = .iterating phase)
    (enters : (run.after steps).enteringColumn phase = some col)
    (below : (run.after steps).pivots < run.cap) {difference : Rat}
    (member : difference ∈ ratioDifferences run.config.tolerance none
      ((run.after steps).tableau.limitingRows col run.config.tolerance)) :
    IsSeparated run.config.tolerance difference :=
  separated.ratioTestNumbers state enters below (List.mem_append_right _ member)

private theorem verdictNumbers (separated : run.StepsSeparated)
    (state : (run.after steps).state = .iterating .one)
    (priced : (run.after steps).enteringColumn .one = none) {value : Rat}
    (member : value ∈ (run.after steps).tableau.objectiveValue ::
      if isNegative (run.after steps).tableau.objectiveValue run.config.tolerance then []
      else Tableau.driveOutNumbers run.form.firstArtificial run.config.tolerance
        (List.range' 1 (run.after steps).tableau.numConstraints) (run.after steps).tableau) :
    IsSeparated run.config.tolerance value := by
  refine separated steps value ?_
  rw [comparedNumbers, state]
  simp only [priced, after_config, after_form]
  exact List.mem_append_right _ member

/-- The objective with which the first phase ends is separated. -/
theorem objectiveValue (separated : run.StepsSeparated)
    (state : (run.after steps).state = .iterating .one)
    (priced : (run.after steps).enteringColumn .one = none) :
    IsSeparated run.config.tolerance (run.after steps).tableau.objectiveValue :=
  separated.verdictNumbers state priced List.mem_cons_self

/-- The numbers that driving out looks at are separated. -/
theorem driveOutNumbers (separated : run.StepsSeparated)
    (state : (run.after steps).state = .iterating .one)
    (priced : (run.after steps).enteringColumn .one = none)
    (accepted : isNegative (run.after steps).tableau.objectiveValue run.config.tolerance = false)
    {value : Rat} (member : value ∈ Tableau.driveOutNumbers run.form.firstArtificial
      run.config.tolerance (List.range' 1 (run.after steps).tableau.numConstraints)
      (run.after steps).tableau) : IsSeparated run.config.tolerance value :=
  separated.verdictNumbers state priced <| List.mem_cons_of_mem _ <| by
    rwa [accepted, if_neg Bool.false_ne_true]

end StepsSeparated

end Run

/-! ## A separated run -/

/-- Two rows that say the same, and one with a negative right-hand side. -/
def redundantProblem : LinearProgram Rat where
  sense := .minimize
  objective := [1, -2]
  constraints := [⟨[1, 1], .equal, 2⟩, ⟨[2, 2], .equal, 4⟩, ⟨[1, -1], .atLeast, -1⟩]

/-- A configuration whose tolerance is small for this problem. -/
def thousandth (rule : PivotRule) : Config Rat where
  tolerance := 1 / 1000
  rule := rule

/-- The run of this problem under either rule. -/
def redundantRun (rule : PivotRule) : Run Rat := .initial redundantProblem (thousandth rule)

theorem create_redundantRun (rule : PivotRule) :
    Run.create redundantProblem (thousandth rule) = .ok (redundantRun rule) :=
  Run.create_eq_ok_initial (by cases rule <;> decide +kernel) (by decide +kernel)

theorem state_redundantRun (rule : PivotRule) :
    ((redundantRun rule).after 5).state = .finished .optimal := by
  cases rule <;> decide +kernel

theorem stepsSeparated_redundantRun (rule : PivotRule) : (redundantRun rule).StepsSeparated :=
  Run.stepsSeparated_of_finished (state_redundantRun rule) (by cases rule <;> decide +kernel)

end SimplexMethod

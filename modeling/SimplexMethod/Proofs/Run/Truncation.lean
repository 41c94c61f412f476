import SimplexMethod.Proofs.Run.Length

/-!
# What the cap of a run decides

Two runs of a problem that differ in their caps make the same steps as long as both caps leave room
for the next one. So a cap decides nothing but when a run is cut off: a run that ends for another
reason ends in the same way under every cap that it needs or more, and any smaller cap cuts it off
when it has made as many pivots as the cap allows. Nothing here depends on the kind of numbers.

## Main definitions

* `Run.withCap`: the run under another cap
* `Run.HasRoom`: a cap lets the run make its next step
* `Solution.neededCap`: the least cap under which a run ends with a solution

## Main results

* `Run.Move.withCap`: as long as a cap leaves room, it does not change what a step does
* `Run.EndsAfter.withCap`, `Run.EndsAfter.cut`: how the run ends under another cap
* `solve_withCap`: how a problem is solved under every cap
-/

namespace SimplexMethod

variable {α : Type} [Scalar α] {problem : LinearProgram α} {config : Config α}

/-- The same configuration with another cap. -/
def Config.withCap (config : Config α) (cap : Nat) : Config α :=
  { config with maxPivots := some cap }

/-- A usable configuration stays usable under every cap that allows a pivot. -/
theorem Config.fault?_withCap (usable : config.fault? = none) {cap : Nat} (allowed : 0 < cap) :
    (config.withCap cap).fault? = none := by
  obtain ⟨finite, positive⟩ := config.tolerance_of_fault? usable
  simp [fault?, withCap, finite, positive, allowed.ne']

/-- The least cap under which a run ends with this solution. The cap is looked at before a column is
found to be unlimited, and not before all columns are found to be priced. -/
def Solution.neededCap (solution : Solution α) : Nat :=
  match solution.status with
  | .unbounded => solution.pivots + 1
  | _ => solution.pivots

omit [Scalar α] in
theorem Solution.pivots_le_neededCap (solution : Solution α) :
    solution.pivots ≤ solution.neededCap := by
  unfold neededCap
  split
  · exact Nat.le_succ _
  · rfl

namespace Run

variable {run last : Run α} {cap steps : Nat} {solution : Solution α}

/-- The run under another cap. -/
def withCap (run : Run α) (cap : Nat) : Run α := { run with config := run.config.withCap cap }

/-- A cap lets the run make its next step: if a column enters, there is a pivot left. -/
def HasRoom (run : Run α) (cap : Nat) : Prop :=
  ∀ phase col, run.state = .iterating phase → run.enteringColumn phase = some col →
    run.pivots < cap

/-! ## One step -/

/-- As long as a cap leaves room, the run under it makes the same move. -/
theorem Move.withCap {next : Run α} (move : run.Move next none) (room : run.HasRoom cap)
    (proper : next.state ≠ .finished .capReached) :
    (run.withCap cap).Move (next.withCap cap) none := by
  -- A move knows nothing of the cap, unless a column enters.
  cases move with
  | stay status state => exact .stay status state
  | enterPhaseOne state needed => exact .enterPhaseOne state needed
  | enterPhaseTwo state unneeded => exact .enterPhaseTwo state unneeded
  | reachCap => exact absurd rfl proper
  | findUnbounded phase col state enters below unlimited =>
    exact .findUnbounded phase col state enters (room phase col state enters) unlimited
  | pivot phase row col next state enters below leaves made =>
    exact .pivot phase row col next state enters (room phase col state enters) leaves made
  | findOptimum state priced => exact .findOptimum state priced
  | findInfeasible state priced negative => exact .findInfeasible state priced negative
  | driveOut state priced accepted succeeds => exact .driveOut state priced accepted succeeds

/-- A step of the run is a step of the run under another cap. -/
private theorem EndsAfter.step_withCap {other : Run α} (unfinished : run.state.status? = none)
    (move : (run.withCap cap).Move other none)
    {outcome : Except (PivotError α) (Solution α)} (rest : other.EndsAfter steps last outcome) :
    (run.withCap cap).EndsAfter (steps + 1) last outcome := by
  obtain ⟨next_eq, succeeds⟩ := move.step_eq
  exact .step unfinished succeeds (next_eq ▸ rest)

/-! ## The end of a run -/

namespace EndsAfter

/-- Along a run the number of pivots does not fall. -/
theorem pivots_le {outcome : Except (PivotError α) (Solution α)}
    (ends : run.EndsAfter steps last outcome) (reads : outcome = .ok solution) :
    run.pivots ≤ solution.pivots := by
  induction ends with
  | finished status state =>
    obtain rfl := Except.ok.inj reads
    cases status <;> rfl
  | fails => cases reads
  | step unfinished succeeds rest ih =>
    refine le_trans ?_ (ih reads)
    rw [pivots_step]
    exact Nat.le_add_right _ _

/-- A finished run has the solution of its status. -/
private theorem eq_solutionFor (ends : run.EndsAfter steps last (.ok solution)) {status : Status}
    (state : run.state = .finished status) : solution = run.solutionFor status :=
  Except.ok.inj (ends.outcome_eq (.finished status state))

/-- A run that is not cut off is never in the state of one that is. -/
private theorem state_ne (ends : run.EndsAfter steps last (.ok solution))
    (proper : solution.status ≠ .capReached) : run.state ≠ .finished .capReached := by
  intro state
  rw [ends.eq_solutionFor state] at proper
  exact proper rfl

/-- When a column enters, the cap that is needed has not been reached. -/
theorem lt_neededCap (ends : run.EndsAfter steps last (.ok solution))
    (proper : solution.status ≠ .capReached) {phase : Phase} {col : Nat}
    (state : run.state = .iterating phase) (enters : run.enteringColumn phase = some col) :
    run.pivots < solution.neededCap := by
  cases ends with
  | finished status state' =>
    rw [state] at state'
    cases state'
  | step unfinished succeeds rest =>
    have move := run.move_step
    rw [succeeds] at move
    generalize run.step.run = next at move rest
    -- The step ends the run with an unlimited column, or it makes a pivot that is counted.
    cases move with
    | findUnbounded =>
      rw [rest.eq_solutionFor rfl]
      exact Nat.lt_succ_self _
    | pivot => exact (rest.pivots_le rfl).trans solution.pivots_le_neededCap
    | reachCap => exact absurd rfl (rest.state_ne proper)
    | stay status state' | enterPhaseOne state' | enterPhaseTwo state' =>
      rw [state] at state'
      cases state'
    | findOptimum state' priced | findInfeasible state' priced | driveOut state' priced =>
      obtain rfl := RunState.iterating.inj (state.symm.trans state')
      rw [enters] at priced
      cases priced

/-! ## Other caps -/

/-- Under every cap that is needed or more the run ends in the same way. -/
theorem withCap {outcome : Except (PivotError α) (Solution α)}
    (ends : run.EndsAfter steps last outcome) (reads : outcome = .ok solution)
    (proper : solution.status ≠ .capReached) (enough : solution.neededCap ≤ cap) :
    (run.withCap cap).EndsAfter steps (last.withCap cap) outcome := by
  induction ends with
  | finished status state => exact .finished status state
  | fails => cases reads
  | @step run last steps outcome unfinished succeeds rest ih =>
    subst reads
    have room : run.HasRoom cap := fun phase col state enters =>
      ((step unfinished succeeds rest).lt_neededCap proper state enters).trans_le enough
    have move := run.move_step
    rw [succeeds] at move
    exact .step_withCap unfinished (move.withCap room (rest.state_ne proper)) (ih rfl)

/-- A smaller cap cuts the run off. -/
theorem cut {outcome : Except (PivotError α) (Solution α)}
    (ends : run.EndsAfter steps last outcome) (reads : outcome = .ok solution)
    (proper : solution.status ≠ .capReached) (unfinished : run.state.status? = none)
    (below : run.pivots ≤ cap) (short : cap < solution.neededCap) :
    ∃ steps last,
      (run.withCap cap).EndsAfter steps last (.ok (.withoutValues .capReached cap)) := by
  induction ends with
  | finished status state => simp [state, RunState.status?] at unfinished
  | fails => cases reads
  | @step run last steps outcome _ succeeds rest ih =>
    subst reads
    have move := run.move_step
    rw [succeeds] at move
    by_cases room : run.HasRoom cap
    · have move' := move.withCap room (rest.state_ne proper)
      have below' : run.step.run.pivots ≤ cap := by
        generalize run.step.run = next at move ⊢
        cases move with
        | pivot phase row col next state enters => exact room phase col state enters
        | _ => exact below
      cases state : run.step.run.state.status? with
      | none =>
        obtain ⟨steps, last, ends⟩ := ih rfl state below'
        exact ⟨_, _, .step_withCap unfinished move' ends⟩
      | some status =>
        -- The run would end here with no more pivots than the cap, so the cap is not a smaller one.
        have finished := RunState.status?_eq_some_iff.1 state
        obtain ⟨last_eq, found⟩ := move.endsWith unfinished finished
        obtain rfl := rest.eq_solutionFor finished
        rw [last_eq] at short
        cases status with
        | unbounded =>
          obtain ⟨phase, col, state, enters, -⟩ := found
          have := room phase col state enters
          exact absurd short (Nat.not_lt.2 this)
        | capReached => exact absurd rfl proper
        | optimal | infeasible => exact absurd short (Nat.not_lt.2 below)
    · -- A column enters, but the cap has been reached.
      simp only [HasRoom, not_forall, not_lt] at room
      obtain ⟨phase, col, state, enters, full⟩ := room
      obtain rfl : run.pivots = cap := le_antisymm below full
      exact ⟨_, _, .step_withCap unfinished (.reachCap phase col state enters full)
        (.finished .capReached rfl)⟩

end EndsAfter

end Run

/-- If a problem is solved and the run was not cut off, the same solution is found under every cap
that the run needs or more: the number of its pivots, and one more if a column was found to be
unlimited. Under any smaller cap the run is cut off when it has made the pivots that are allowed. -/
theorem solve_withCap {solution : Solution α} (solved : solve problem config = .ok solution)
    (proper : solution.status ≠ .capReached) {cap : Nat} (allowed : 0 < cap) :
    solve problem (config.withCap cap) =
      .ok (if solution.neededCap ≤ cap then solution else .withoutValues .capReached cap) := by
  obtain ⟨run, created, steps, last, ends⟩ := solve_eq_ok_iff.1 solved
  obtain ⟨usable, wellFormed, rfl⟩ := Run.create_eq_ok_iff.1 created
  have created' := Run.create_eq_ok_initial (config.fault?_withCap usable allowed) wellFormed
  split
  · rename_i enough
    exact solve_eq_ok_iff.2 ⟨_, created', steps, _, ends.withCap rfl proper enough⟩
  · rename_i short
    obtain ⟨steps, last, cut⟩ :=
      ends.cut rfl proper rfl (Nat.zero_le cap) (Nat.lt_of_not_le short)
    exact solve_eq_ok_iff.2 ⟨_, created', steps, last, cut⟩

/-- A problem with a column that can be made as large as one likes, once the first phase is over. -/
def openWedge : LinearProgram Float where
  sense := .maximize
  objective := [1, 2]
  constraints := [⟨[1, -1], .atMost, 1⟩, ⟨[1, 1], .atLeast, 2⟩]

/-- On double-precision numbers, an optimum that takes seven pivots is found under a cap of seven
but not of six. The other problem takes two pivots and is found unbounded under a cap of three
only. -/
theorem solve_withCap_cyclingProblem :
    (∃ solution, solve cyclingProblem (capped .bland 50) = .ok solution ∧
      solution.status = .optimal ∧ solution.pivots = 7 ∧
      solve cyclingProblem ((capped .bland 50).withCap 7) = .ok solution ∧
      solve cyclingProblem ((capped .bland 50).withCap 6) =
        .ok (.withoutValues .capReached 6)) ∧
    solve openWedge (Config.standard.withCap 3) = .ok (.withoutValues .unbounded 2) ∧
    solve openWedge (Config.standard.withCap 2) = .ok (.withoutValues .capReached 2) := by
  have cycling : ∃ solution, solve cyclingProblem (capped .bland 50) = .ok solution ∧
      solution.status = .optimal ∧ solution.pivots = 7 := by
    have finished : ((Run.initial cyclingProblem (capped .bland 50)).after 9).state =
        .finished .optimal := by decide +kernel
    obtain ⟨steps, ends⟩ := Run.endsAfter_of_finished (by decide +kernel) finished
    have created : Run.create cyclingProblem (capped .bland 50) = .ok (.initial _ _) :=
      Run.create_eq_ok_initial (by decide +kernel) (by decide +kernel)
    exact ⟨_, solve_eq_ok_iff.2 ⟨_, created, steps, _, ends⟩, rfl, by decide +kernel⟩
  have wedge : solve openWedge .standard = .ok (.withoutValues .unbounded 2) := by
    have finished : ((Run.initial openWedge .standard).after 5).state =
        .finished .unbounded := by decide +kernel
    have read : ((Run.initial openWedge .standard).after 5).solutionFor .unbounded =
        .withoutValues .unbounded 2 :=
      congrArg (Solution.withoutValues .unbounded) (by decide +kernel)
    obtain ⟨steps, ends⟩ := Run.endsAfter_of_finished (by decide +kernel) finished
    rw [read] at ends
    have created : Run.create openWedge .standard = .ok (.initial _ _) :=
      Run.create_eq_ok_initial (by decide +kernel) (by decide +kernel)
    exact solve_eq_ok_iff.2 ⟨_, created, steps, _, ends⟩
  obtain ⟨solution, solved, optimal, pivots⟩ := cycling
  have needed : solution.neededCap = 7 := by
    rw [Solution.neededCap, optimal]
    exact pivots
  have proper : solution.status ≠ .capReached := by simp [optimal]
  refine ⟨⟨solution, solved, optimal, pivots, ?_, ?_⟩, ?_, ?_⟩
  · rw [solve_withCap solved proper (by decide), if_pos needed.le]
  · rw [solve_withCap solved proper (by decide), if_neg (by rw [needed]; decide)]
  · rw [solve_withCap wedge (by decide) (by decide), if_pos (by decide)]
  · rw [solve_withCap wedge (by decide) (by decide), if_neg (by decide)]

end SimplexMethod

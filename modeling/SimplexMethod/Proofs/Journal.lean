import SimplexMethod.Proofs.Run.Columns
import SimplexMethod.Proofs.Run.Length
import SimplexMethod.Proofs.Tableau.Replay

/-!
# The journal of a run is complete

The messages of a run that has not failed announce all of its pivots. The counted ones are numbered
without gaps, and the announced pivots, made again on the tableau of the standard form, lead to the
basis and the constraint rows of the last tableau. Objectives enter a tableau without a message of
their own, but they change its objective row only. Nothing here depends on the kind of numbers.

## Main definitions

* `Run.Announces`: announced pivots lead from one run to another

## Main results

* `Tableau.replays_driveOutRows`: driving out announces its pivots
* `Run.announces_step`, `Run.exists_announces`: so does a step, and so does a run
* `solveWithJournal_replays`: the messages about a solved problem give the last tableau
-/

namespace SimplexMethod

variable {α : Type} [Scalar α] [Numeral α]

/-! ## Driving out -/

/-- The pivots of driving out are announced, and none of them is counted. -/
theorem Tableau.replays_driveOutRows {firstArtificial : Nat} {tolerance : α} {rows : List Nat}
    {tableau : Tableau α} (distinct : tableau.columns.Nodup)
    (succeeds : (driveOutRows firstArtificial tolerance rows tableau).failure = none) :
    countedNumbers (announcements
      ((driveOutRows firstArtificial tolerance rows tableau).events.map Event.text)) = [] ∧
    Replays tolerance (announcements
      ((driveOutRows firstArtificial tolerance rows tableau).events.map Event.text))
      tableau (driveOutRows firstArtificial tolerance rows tableau).tableau := by
  induction rows generalizing tableau with
  | nil => exact ⟨rfl, .nil (.refl tableau)⟩
  | cons row rows ih =>
    cases basic : tableau.basicArtificial? firstArtificial row with
    | none =>
      simp only [driveOutRows, basic] at succeeds ⊢
      exact ih distinct succeeds
    | some artificial =>
      cases found : tableau.replacement? firstArtificial tolerance row with
      | none =>
        simp only [driveOutRows, basic, found] at succeeds ⊢
        rw [announcements_cons (.redundant row) _ trivial]
        exact ih distinct succeeds
      | some col =>
        cases made : tableau.pivot row col tolerance with
        | error error => simp [driveOutRows, basic, found, made] at succeeds
        | ok next =>
          simp only [driveOutRows, basic, found, made] at succeeds ⊢
          rw [announcements_cons (.drivenOut _ row _) _
            (tableau.blank_notMem_columnName artificial)]
          obtain ⟨inside, columns⟩ : col < tableau.numColumns ∧ next.columns = tableau.columns := by
            obtain ⟨-, -, inside, -, rfl⟩ := pivot_eq_ok_iff_isUsablePivot.1 made
            exact ⟨inside, rfl⟩
          obtain ⟨uncounted, rest⟩ := ih (columns ▸ distinct) succeeds
          have place : tableau.place? (.drivenOut row (tableau.columnName col)) =
              some (row, col) := by
            rw [place?, columnNamed?_columnName distinct inside, Option.map_some]
          exact ⟨uncounted, (Replays.pivot place made).append rest⟩

/-! ## Steps -/

namespace Run

section Announces

omit [Numeral α]

/-- Announced pivots lead from a run to a later state of it, up to the objective row, and those that
are counted go on from the count of the run without gaps. -/
structure Announces (run : Run α) (announced : List Announcement) (last : Run α) : Prop where
  config_eq : last.config = run.config
  numbers_eq : countedNumbers announced =
    List.range' (run.pivots + 1) (countedNumbers announced).length
  pivots_eq : last.pivots = run.pivots + (countedNumbers announced).length
  replays : Tableau.Replays run.config.tolerance announced run.tableau last.tableau

namespace Announces

variable {run next last : Run α} {early late : List Announcement}

theorem nil (config : next.config = run.config) (pivots : next.pivots = run.pivots)
    (same : next.tableau.SameConstraints run.tableau) : run.Announces [] next :=
  ⟨config, rfl, pivots, .nil same⟩

theorem trans (left : run.Announces early next) (right : next.Announces late last) :
    run.Announces (early ++ late) last where
  config_eq := right.config_eq.trans left.config_eq
  numbers_eq := by
    have start : run.pivots + 1 + 1 * (countedNumbers early).length = next.pivots + 1 := by
      rw [left.pivots_eq]
      omega
    rw [countedNumbers_append, List.length_append, ← List.range'_append, ← left.numbers_eq, start,
      ← right.numbers_eq]
  pivots_eq := by
    rw [countedNumbers_append, List.length_append, right.pivots_eq, left.pivots_eq, Nat.add_assoc]
  replays := left.replays.append (left.config_eq ▸ right.replays)

end Announces

end Announces

/-- Unless a transition of the run fails, the messages about it announce its pivots. -/
def IsAnnounced (run : Run α) (transition : Transition α) : Prop :=
  transition.failure = none →
    run.Announces (announcements (transition.events.map Event.text)) transition.run

variable {run : Run α}

theorem isAnnounced_stop (status : Status) {event : Event α} (silent : event.announcement? = none) :
    run.IsAnnounced (run.stop status event) := by
  intro _
  rw [announcements_eq_nil _ (by simpa [stop] using silent)]
  exact .nil rfl rfl (.refl _)

theorem isAnnounced_enterPhaseOne : run.IsAnnounced run.enterPhaseOne := by
  intro _
  rw [announcements_eq_nil _ (by simp [enterPhaseOne, Event.announcement?])]
  exact .nil rfl rfl (Tableau.SameConstraints.withObjective _ _).symm

theorem isAnnounced_enterPhaseTwo : run.IsAnnounced run.enterPhaseTwo := by
  intro _
  rw [announcements_eq_nil _ (by simp [enterPhaseTwo, Event.announcement?])]
  exact .nil rfl rfl (Tableau.SameConstraints.withObjective _ _).symm

theorem isAnnounced_start : run.IsAnnounced run.start := by
  unfold start
  split
  · exact isAnnounced_enterPhaseOne
  · exact isAnnounced_enterPhaseTwo

theorem announces_driveOut {firstArtificial : Nat} (distinct : run.tableau.columns.Nodup)
    (succeeds : (run.tableau.driveOut firstArtificial run.config.tolerance).failure = none) :
    let driven := run.tableau.driveOut firstArtificial run.config.tolerance
    run.Announces (announcements (driven.events.map Event.text))
      { run with tableau := driven.tableau } := by
  intro driven
  obtain ⟨uncounted, replays⟩ :
      countedNumbers (announcements (driven.events.map Event.text)) = [] ∧ _ :=
    Tableau.replays_driveOutRows distinct succeeds
  refine ⟨rfl, ?_, ?_, replays⟩
  · rw [uncounted]
    rfl
  · rw [uncounted]
    rfl

theorem isAnnounced_finishPhaseOne (distinct : run.tableau.columns.Nodup) :
    run.IsAnnounced run.finishPhaseOne := by
  unfold finishPhaseOne
  dsimp only
  split
  · exact isAnnounced_stop _ rfl
  · split
    · intro succeeds
      cases succeeds
    · rename_i succeeds
      intro _
      dsimp only
      rw [announcements_append]
      exact (announces_driveOut distinct succeeds).trans (isAnnounced_enterPhaseTwo rfl)

theorem isAnnounced_finishPhase (distinct : run.tableau.columns.Nodup) (phase : Phase) :
    run.IsAnnounced (run.finishPhase phase) := by
  cases phase with
  | one => exact isAnnounced_finishPhaseOne distinct
  | two => exact isAnnounced_stop _ rfl

theorem isAnnounced_pivotAt (row col : Nat) : run.IsAnnounced (run.pivotAt row col) := by
  unfold pivotAt
  dsimp only
  split
  · intro succeeds
    cases succeeds
  · rename_i next made
    intro _
    rw [announcements_cons (.pivot _ row col _ _) _ trivial,
      announcements_eq_nil [.tableau next] (by simp [Event.announcement?])]
    exact ⟨rfl, rfl, rfl, .pivot rfl made⟩

theorem isAnnounced_iterate (distinct : run.tableau.columns.Nodup) (phase : Phase) :
    run.IsAnnounced (run.iterate phase) := by
  unfold iterate
  split
  · exact isAnnounced_finishPhase distinct phase
  · split
    · exact isAnnounced_stop _ rfl
    · split
      · exact isAnnounced_stop _ rfl
      · exact isAnnounced_pivotAt _ _

/-- The messages about a step announce its pivots. -/
theorem isAnnounced_step (distinct : run.tableau.columns.Nodup) : run.IsAnnounced run.step := by
  unfold step
  split
  · exact isAnnounced_start
  · exact isAnnounced_iterate distinct _
  · exact fun _ => .nil rfl rfl (.refl _)

/-! ## Runs -/

/-- The messages about a run that ends with a solution announce its pivots. -/
theorem exists_announces (distinct : run.tableau.columns.Nodup) {journal : Array (Event α)}
    {solution : Solution α} (solved : (run.finishFrom .everything journal).outcome = .ok solution) :
    ∃ events, (run.finishFrom .everything journal).journal.toList = journal.toList ++ events ∧
      run.Announces (announcements (events.map Event.text))
        (run.finishFrom .everything journal).run := by
  fun_induction finishFrom .everything journal run with
  | case1 journal run status finished =>
    exact ⟨[], (List.append_nil _).symm, .nil rfl rfl (.refl _)⟩
  | case2 journal run unfinished next journal' error fails => cases solved
  | case3 journal run unfinished next journal' succeeds ih =>
    have columns : next.run.tableau.columns = run.tableau.columns := run.move_step.columns_eq
    obtain ⟨events, journal_eq, announces⟩ := ih (columns ▸ distinct) solved
    refine ⟨next.events ++ events, ?_, ?_⟩
    · rw [journal_eq, ← List.append_assoc]
      simp [journal', Detail.keeps]
    · rw [announcements_append]
      exact (isAnnounced_step distinct succeeds).trans announces

end Run

variable {problem : LinearProgram α} {config : Config α} {run : Run α} {solution : Solution α}

/-- The messages about a solve announce the pivots of its run, which comes to the same end. -/
theorem announces_solveWithJournal (created : Run.create problem config = .ok run)
    (solved : (solveWithJournal .everything problem config).outcome = .ok solution) :
    run.Announces
      (announcements ((solveWithJournal .everything problem config).journal.toList.map Event.text))
      (run.finish .everything).run ∧ (run.finish .everything).outcome = .ok solution := by
  have distinct : run.tableau.columns.Nodup := by
    rw [← run.after_zero, Run.columns_of_create created]
    exact problem.nodup_standardColumns
  revert solved
  rw [solveWithJournal, created]
  dsimp only
  generalize start : (run.creationEvents.filter Detail.everything.keeps).toArray = journal
  split
  · simp
  · rename_i found outcome
    rintro ⟨⟩
    obtain ⟨events, journal_eq, announces⟩ := Run.exists_announces distinct outcome
    obtain ⟨same, same_outcome⟩ := run.run_finishFrom .everything journal
    rw [same] at announces
    refine ⟨?_, same_outcome ▸ outcome⟩
    -- The run is told between messages about its beginning and its end, which announce nothing.
    have silent : announcements (journal.toList.map Event.text) = [] := by
      rw [← start]
      exact announcements_eq_nil _ (by
        simp [Run.creationEvents, StandardForm.event, Event.announcement?, Detail.keeps])
    rw [Array.toList_appendList, journal_eq, announcements_append, announcements_append, silent,
      announcements_eq_nil (List.filter _ _) (by simp [Event.announcement?, Detail.keeps]),
      List.nil_append, List.append_nil]
    exact announces

/-- The messages about a solved problem, with all details, give its last tableau. The counted pivots
are numbered from one up to their count. The announced pivots, made again one after the other on the
tableau of the standard form, lead to the basis and the constraint rows of the last tableau. -/
theorem solveWithJournal_replays (created : Run.create problem config = .ok run)
    (solved : (solveWithJournal .everything problem config).outcome = .ok solution) :
    let messages := (solveWithJournal .everything problem config).journal.toList.map Event.text
    let last := (run.finish .everything).run
    last.solution? = some solution ∧
    countedNumbers (announcements messages) = List.range' 1 solution.pivots ∧
    ∃ replayed,
      problem.standardTableau.replay? config.tolerance (announcements messages) = some replayed ∧
      replayed.basis = last.tableau.basis ∧
      replayed.constraintRows = last.tableau.constraintRows := by
  intro messages last
  obtain ⟨announces, outcome⟩ := announces_solveWithJournal created solved
  obtain ⟨steps, -, ends⟩ := run.exists_endsAfter .everything #[]
  obtain ⟨status, finished, read⟩ := ends.exists_status outcome
  have last_eq : last = run.after steps := ends.last_eq
  rw [← last_eq] at finished read
  have pivots : solution.pivots = last.pivots := by
    rw [read]
    cases status <;> rfl
  obtain ⟨-, -, rfl⟩ := Run.create_eq_ok_iff.1 created
  obtain ⟨-, numbers, count, replays⟩ := announces
  obtain ⟨replayed, replay, same⟩ := replays (.refl _)
  refine ⟨?_, ?_, replayed, replay, same.basis_eq, same.constraintRows_eq⟩
  · rw [Run.solution?, finished, read]
    rfl
  · -- No pivot has been counted before the run.
    have length : solution.pivots = (countedNumbers (announcements messages)).length :=
      pivots.trans (count.trans (Nat.zero_add _))
    rw [length]
    exact numbers

/-- A problem that leaves an artificial column in the basis at zero. -/
def drivenOutProblem : LinearProgram Float where
  sense := .maximize
  objective := [0, 0, 1]
  constraints := [⟨[1, 1, 0], .equal, 2⟩, ⟨[1, -1, 0], .equal, 2⟩, ⟨[0, 0, 1], .atMost, 1⟩]

/-- Between two counted pivots a third one drives the artificial column out. Made again, the three
of them lead to the last basis. -/
theorem solveWithJournal_replays_drivenOutProblem :
    ∃ run solution replayed, Run.create drivenOutProblem .standard = .ok run ∧
      (solveWithJournal .everything drivenOutProblem .standard).outcome = .ok solution ∧
      announcements
        ((solveWithJournal .everything drivenOutProblem .standard).journal.toList.map Event.text) =
          [.counted 1 1 0, .drivenOut 2 "x2", .counted 2 3 2] ∧
      List.range' 1 solution.pivots = [1, 2] ∧
      drivenOutProblem.standardTableau.replay? (Config.standard : Config Float).tolerance
        [.counted 1 1 0, .drivenOut 2 "x2", .counted 2 3 2] = some replayed ∧
      replayed.basis = (run.finish .everything).run.tableau.basis ∧
      replayed.constraintRows = (run.finish .everything).run.tableau.constraintRows := by
  have created : Run.create drivenOutProblem .standard =
      .ok (.initial drivenOutProblem .standard) :=
    Run.create_eq_ok_initial (by decide +kernel) (by decide +kernel)
  have announced : announcements
      ((solveWithJournal .everything drivenOutProblem .standard).journal.toList.map Event.text) =
        [.counted 1 1 0, .drivenOut 2 "x2", .counted 2 3 2] := by
    decide +kernel
  have succeeds : (solveWithJournal .everything drivenOutProblem
      .standard).outcome.toOption.isSome = true := by
    decide +kernel
  cases solved : (solveWithJournal .everything drivenOutProblem .standard).outcome with
  | error error =>
    rw [solved] at succeeds
    cases succeeds
  | ok solution =>
    obtain ⟨-, numbers, replayed, replay, basis, rows⟩ := solveWithJournal_replays created solved
    rw [announced] at numbers replay
    exact ⟨_, solution, replayed, created, rfl, announced, numbers.symm, replay, basis, rows⟩

end SimplexMethod

import SimplexMethod.Proofs.Run.Columns
import SimplexMethod.Proofs.Run.Comparisons
import SimplexMethod.Proofs.Run.PhaseOne

/-!
# Rows that keep an artificial column

A row that is visited while driving out keeps its artificial column if all of its other cells are
zero to tolerance at this time. The pivots of later visits take multiples of their rows from it, and
a pivot on a small cell takes large ones. So cells that were zero to tolerance need not be so in the
end. They are if no later pivot finds anything in the row, as is the case for a row that is zero
without any tolerance.

## Main definitions

* `Tableau.beforeVisit`: the tableau in which a row is visited
* `Tableau.visitColumn?`: the column that a visit brings into the basis
* `Tableau.takenByVisit`: what a visit takes from the cells of another row

## Main results

* `Tableau.visit_beforeVisit`: the visits follow each other
* `Tableau.cell_driveOut`: what becomes of a row after its visit
* `rows_left_by_driveOut`: the rows that keep an artificial column when the second phase begins
-/

namespace SimplexMethod

namespace Tableau

section Scalar

variable {α : Type} [Scalar α]

/-- The tableau in which a row is visited. -/
def beforeVisit (tableau : Tableau α) (firstArtificial : Nat) (tolerance : α) (row : Nat) :
    Tableau α :=
  (driveOutRows firstArtificial tolerance (List.range' 1 (row - 1)) tableau).tableau

/-- The column that a visit brings into the basis, if there is one. -/
def visitColumn? (tableau : Tableau α) (firstArtificial : Nat) (tolerance : α) (row : Nat) :
    Option Nat :=
  (tableau.basicArtificial? firstArtificial row).bind fun _ =>
    tableau.replacement? firstArtificial tolerance row

/-- What a visit to `visited` takes from a cell of another row. -/
def takenByVisit (tableau : Tableau α) (firstArtificial : Nat) (tolerance : α)
    (visited row col : Nat) : α :=
  match tableau.visitColumn? firstArtificial tolerance visited with
  | none => 0
  | some entering =>
    tableau.cell row entering * (tableau.cell visited col / tableau.cell visited entering)

end Scalar

variable {tableau : Tableau Rat} {firstArtificial row : Nat} {tolerance : Rat}

/-! ## One visit -/

namespace Visit

variable {after : Tableau Rat}

/-- A visit changes nothing, or it exchanges the basic column of its row. -/
theorem eq_or_exchange (visit : Visit firstArtificial tolerance row tableau after)
    (nonnegative : 0 ≤ tolerance) :
    tableau.visitColumn? firstArtificial tolerance row = none ∧ after = tableau ∨
      ∃ col, tableau.visitColumn? firstArtificial tolerance row = some col ∧
        col < firstArtificial ∧ tableau.Exchange row col after := by
  cases visit with
  | pass early => exact .inl ⟨by simp [visitColumn?, early], rfl⟩
  | redundant artificial basic missing =>
    exact .inl ⟨by simp [visitColumn?, basic, missing], rfl⟩
  | exchange artificial col _ basic found made =>
    exact .inr ⟨col, by simp [visitColumn?, basic, found], (replacement?_eq_some found).1,
      exchange_of_pivot nonnegative made⟩

/-- A visit leaves the basic columns of all other rows, and takes something from their cells. -/
theorem other_row (visit : Visit firstArtificial tolerance row tableau after)
    (nonnegative : 0 ≤ tolerance) {i : Nat} (other : i ≠ row) :
    after.basicColumn i = tableau.basicColumn i ∧ ∀ col, after.cell i col =
      tableau.cell i col - tableau.takenByVisit firstArtificial tolerance row i col := by
  rcases visit.eq_or_exchange nonnegative with ⟨idle, rfl⟩ | ⟨entering, found, -, exchange⟩
  · exact ⟨rfl, fun col => by rw [takenByVisit, idle, sub_zero]⟩
  · refine ⟨by rw [exchange.basicColumn_eq, if_neg other], fun col => ?_⟩
    rw [takenByVisit, found, exchange.cell_eq, if_neg other]

/-- A visit after which an artificial column is basic in its row has changed nothing, and has seen
nothing but zeros to tolerance. -/
theorem eq_of_artificial (visit : Visit firstArtificial tolerance row tableau after)
    (nonnegative : 0 ≤ tolerance) (row_mem : row ∈ tableau.constraintIndices)
    (late : firstArtificial ≤ after.basicColumn row) :
    after = tableau ∧ ∀ col < firstArtificial, |tableau.cell row col| ≤ tolerance := by
  rcases visit.eq_or_exchange nonnegative with ⟨idle, rfl⟩ | ⟨col, -, early, exchange⟩
  · refine ⟨rfl, fun col inside => ?_⟩
    rw [visitColumn?, basicArtificial?_eq_some_iff.2 ⟨row_mem, rfl, late⟩] at idle
    exact (isZero_iff _ _).1 (replacement?_eq_none idle inside)
  · rw [exchange.basicColumn_eq, if_pos rfl] at late
    omega

end Visit

/-! ## All visits -/

/-- Driving out keeps the number of columns and the constraint rows. -/
theorem shape_driveOutRows (nonnegative : 0 ≤ tolerance) (tableau : Tableau Rat)
    (firstArtificial : Nat) (rows : List Nat) :
    (driveOutRows firstArtificial tolerance rows tableau).tableau.numColumns = tableau.numColumns ∧
      (driveOutRows firstArtificial tolerance rows tableau).tableau.constraintIndices =
        tableau.constraintIndices := by
  refine driveOutRows_induction
    (P := fun reached => reached.numColumns = tableau.numColumns ∧
      reached.constraintIndices = tableau.constraintIndices)
    (fun before after row col ⟨width, indices⟩ _ _ _ made => ?_) ⟨rfl, rfl⟩
  have exchange := exchange_of_pivot nonnegative made
  exact ⟨exchange.numColumns_eq.trans width, exchange.constraintIndices_eq.trans indices⟩

section Visits

variable (nonnegative : 0 ≤ tolerance) (bounded : firstArtificial ≤ tableau.numColumns)
include nonnegative bounded

/-- Since no pivot fails, rows can be visited in two goes. -/
theorem driveOutRows_append (rows others : List Nat) :
    (driveOutRows firstArtificial tolerance (rows ++ others) tableau).tableau =
      (driveOutRows firstArtificial tolerance others
        (driveOutRows firstArtificial tolerance rows tableau).tableau).tableau := by
  induction rows generalizing tableau with
  | nil => rfl
  | cons row rows ih =>
    obtain ⟨after, visit, follows⟩ := exists_visit bounded row
    rw [List.cons_append, (follows _).1, (follows _).1]
    exact ih ((visit.numColumns_eq nonnegative).symm ▸ bounded)

/-- The visits follow each other. -/
theorem visit_beforeVisit (row : Nat) :
    Visit firstArtificial tolerance (row + 1)
      (tableau.beforeVisit firstArtificial tolerance (row + 1))
      (tableau.beforeVisit firstArtificial tolerance (row + 2)) := by
  let before := tableau.beforeVisit firstArtificial tolerance (row + 1)
  have kept : firstArtificial ≤ before.numColumns :=
    bounded.trans_eq (shape_driveOutRows nonnegative tableau _ _).1.symm
  obtain ⟨after, visit, follows⟩ := exists_visit kept (row + 1)
  have next : tableau.beforeVisit firstArtificial tolerance (row + 2) = after :=
    calc (driveOutRows firstArtificial tolerance (List.range' 1 (row + 1)) tableau).tableau
        = (driveOutRows firstArtificial tolerance [row + 1] before).tableau := by
          rw [List.range'_concat, one_mul, Nat.add_comm 1 row,
            driveOutRows_append nonnegative bounded]
          rfl
      _ = after := (follows []).1
  rwa [next]

/-- After its visit a row keeps its basic column, and loses what the later visits take. -/
theorem cell_beforeVisit {row later : Nat} (le : row ≤ later) :
    let visited := tableau.beforeVisit firstArtificial tolerance (row + 1)
    let reached := tableau.beforeVisit firstArtificial tolerance (later + 1)
    reached.basicColumn row = visited.basicColumn row ∧
      ∀ col, reached.cell row col = visited.cell row col -
        ∑ other ∈ Finset.Ioc row later,
          (tableau.beforeVisit firstArtificial tolerance other).takenByVisit firstArtificial
            tolerance other row col := by
  intro visited
  induction later, le using Nat.le_induction with
  | base => simp [visited]
  | succ later le ih =>
    intro reached
    obtain ⟨column, cells⟩ := ih
    obtain ⟨kept, taken⟩ := (visit_beforeVisit nonnegative bounded later).other_row nonnegative
      (i := row) (by omega)
    refine ⟨kept.trans column, fun col => ?_⟩
    rw [taken, cells, Finset.sum_Ioc_succ_top le, sub_sub]

/-- A row that keeps its artificial column had nothing but zeros to tolerance when it was visited,
and has lost what the later visits have taken from it. -/
theorem cell_driveOut (row_mem : row ∈ tableau.constraintIndices) :
    let driven := (tableau.driveOut firstArtificial tolerance).tableau
    let visited := tableau.beforeVisit firstArtificial tolerance row
    firstArtificial ≤ driven.basicColumn row →
      driven.basicColumn row = visited.basicColumn row ∧
      (∀ col < firstArtificial, |visited.cell row col| ≤ tolerance) ∧
      ∀ col, driven.cell row col = visited.cell row col -
        ∑ later ∈ Finset.Ioc row tableau.numConstraints,
          (tableau.beforeVisit firstArtificial tolerance later).takenByVisit firstArtificial
            tolerance later row col := by
  intro driven visited late
  obtain ⟨positive, bounded_row⟩ := tableau.mem_constraintIndices.1 row_mem
  obtain ⟨column, cells⟩ := cell_beforeVisit nonnegative bounded bounded_row
  have all : tableau.beforeVisit firstArtificial tolerance (tableau.numConstraints + 1) = driven :=
    rfl
  rw [all] at column cells
  obtain ⟨index, rfl⟩ := Nat.exists_eq_add_of_le' positive
  have same := (visit_beforeVisit nonnegative bounded index).eq_of_artificial nonnegative
    ((shape_driveOutRows nonnegative tableau _ _).2.symm ▸ row_mem) (column ▸ late)
  rw [same.1] at column cells
  exact ⟨column, same.2, cells⟩

/-- A row in which no later pivot finds anything is zero to tolerance in the end. -/
theorem abs_cell_driveOut_le (row_mem : row ∈ tableau.constraintIndices)
    (late : firstArtificial ≤ (tableau.driveOut firstArtificial tolerance).tableau.basicColumn row)
    (missed : ∀ later ∈ Finset.Ioc row tableau.numConstraints, ∀ entering,
      (tableau.beforeVisit firstArtificial tolerance later).visitColumn? firstArtificial tolerance
          later = some entering →
        (tableau.beforeVisit firstArtificial tolerance later).cell row entering = 0)
    {col : Nat} (early : col < firstArtificial) :
    |(tableau.driveOut firstArtificial tolerance).tableau.cell row col| ≤ tolerance := by
  obtain ⟨-, small, cells⟩ := cell_driveOut nonnegative bounded row_mem late
  have nothing : ∀ later ∈ Finset.Ioc row tableau.numConstraints,
      (tableau.beforeVisit firstArtificial tolerance later).takenByVisit firstArtificial tolerance
        later row col = 0 := by
    intro later member
    unfold takenByVisit
    split
    · rfl
    · rename_i entering found
      rw [missed later member entering found, zero_mul]
  rw [cells, Finset.sum_eq_zero nothing, sub_zero]
  exact small col early

/-- A row that is settled before a visit is settled before all later ones. -/
theorem isSettled_beforeVisit {first later : Nat} (le : first ≤ later)
    (settled : (tableau.beforeVisit firstArtificial tolerance (first + 1)).IsSettled
      firstArtificial row) :
    (tableau.beforeVisit firstArtificial tolerance (later + 1)).IsSettled firstArtificial row := by
  induction later, le using Nat.le_induction with
  | base => exact settled
  | succ later le ih =>
    exact (visit_beforeVisit nonnegative bounded later).isSettled_of_isSettled nonnegative ih

/-- A row that is zero without any tolerance when it is visited stays so. -/
theorem cell_driveOut_eq_zero (row_mem : row ∈ tableau.constraintIndices) :
    let driven := (tableau.driveOut firstArtificial tolerance).tableau
    let visited := tableau.beforeVisit firstArtificial tolerance row
    firstArtificial ≤ driven.basicColumn row → (∀ col < firstArtificial, visited.cell row col = 0) →
      ∀ col < firstArtificial, driven.cell row col = 0 := by
  intro driven visited late zero
  obtain ⟨positive, bounded_row⟩ := tableau.mem_constraintIndices.1 row_mem
  obtain ⟨index, rfl⟩ := Nat.exists_eq_add_of_le' positive
  exact isSettled_beforeVisit nonnegative bounded (Nat.le_of_succ_le bounded_row)
    (fun _ => zero) late

end Visits

end Tableau

/-! ## Runs -/

namespace Run

variable {problem : LinearProgram Rat} {config : Config Rat} {run : Run Rat}

/-- The step between the phases drives artificial columns out, and meets what this needs. -/
theorem driveOut_after (created : Run.create problem config = .ok run) {steps : Nat}
    (one : (run.after steps).state = .iterating .one)
    (two : (run.after (steps + 1)).state = .iterating .two) :
    let before := (run.after steps).tableau
    let driven := before.driveOut run.form.firstArtificial run.config.tolerance
    0 ≤ run.config.tolerance ∧ run.form.firstArtificial ≤ before.numColumns ∧
      driven.failure = none ∧
      (run.after (steps + 1)).tableau = driven.tableau.withObjective run.form.costs := by
  have sound := isSound_of_create created
  obtain ⟨-, -, driven⟩ := (sound.move steps).driveOut_eq one two
  rw [after_form, after_config] at driven
  exact ⟨sound.tolerance_pos.le, firstArtificial_le_numColumns created steps, driven⟩

end Run

/-- When the second phase begins, a row whose basic column is artificial had nothing but zeros to
tolerance in all other columns when it was visited, with the same basic column. Since then each of
its cells has lost what the pivots of later visits take. So its cells are still zero to tolerance if
none of these pivots found anything in the row, and still zero if they were so without any
tolerance. -/
theorem rows_left_by_driveOut {problem : LinearProgram Rat} {config : Config Rat} {run : Run Rat}
    (created : Run.create problem config = .ok run) {steps : Nat}
    (one : (run.after steps).state = .iterating .one)
    (two : (run.after (steps + 1)).state = .iterating .two) :
    let first := run.form.firstArtificial
    let tolerance := run.config.tolerance
    let before := (run.after steps).tableau
    let after := (run.after (steps + 1)).tableau
    let visited := before.beforeVisit first tolerance
    (before.driveOut first tolerance).failure = none ∧
    after = (before.driveOut first tolerance).tableau.withObjective run.form.costs ∧
    (∀ col, col < first ↔ col < after.numColumns ∧ ¬after.IsArtificial col) ∧
    ∀ row artificial, after.basicColumn? row = some artificial → after.IsArtificial artificial →
      (visited row).basicColumn? row = some artificial ∧
      (∀ col < first, |(visited row).cell row col| ≤ tolerance) ∧
      (∀ col, after.cell row col = (visited row).cell row col -
        ∑ later ∈ Finset.Ioc row before.numConstraints,
          (visited later).takenByVisit first tolerance later row col) ∧
      ((∀ later ∈ Finset.Ioc row before.numConstraints, ∀ entering,
          (visited later).visitColumn? first tolerance later = some entering →
            (visited later).cell row entering = 0) →
        ∀ col < first, |after.cell row col| ≤ tolerance) ∧
      ((∀ col < first, (visited row).cell row col = 0) →
        ∀ col < first, after.cell row col = 0) := by
  intro first tolerance before after visited
  obtain ⟨nonnegative, bounded, succeeds, tableau_eq⟩ := Run.driveOut_after created one two
  have after_eq : after =
      (before.driveOut first tolerance).tableau.withObjective run.form.costs := tableau_eq
  refine ⟨succeeds, after_eq, fun col => Run.lt_firstArtificial_iff created, ?_⟩
  intro row artificial basic is_artificial
  obtain ⟨row_mem, rfl⟩ := Tableau.basicColumn?_eq_some_iff.1 basic
  have late : first ≤ after.basicColumn row :=
    (Run.isArtificial_iff created (Tableau.basicColumn_lt row_mem)).1 is_artificial
  -- The objective of the second phase changes neither the rows nor the basis.
  clear_value after
  subst after_eq
  rw [Tableau.constraintIndices_withObjective] at row_mem
  have row_ne : row ≠ 0 := by
    have := (Tableau.mem_constraintIndices _).1 row_mem
    omega
  rw [Tableau.basicColumn_withObjective] at late ⊢
  simp only [Tableau.cell_withObjective row_ne]
  have indices (rows : List Nat) :=
    (Tableau.shape_driveOutRows nonnegative before first rows).2
  have before_mem : row ∈ before.constraintIndices := indices _ ▸ row_mem
  have visited_mem : row ∈ (visited row).constraintIndices := (indices _).symm ▸ before_mem
  obtain ⟨kept, small, cells⟩ := Tableau.cell_driveOut nonnegative bounded before_mem late
  exact ⟨Tableau.basicColumn?_eq_some_iff.2 ⟨visited_mem, kept.symm⟩, small, cells,
    fun missed _ => Tableau.abs_cell_driveOut_le nonnegative bounded before_mem late missed,
    Tableau.cell_driveOut_eq_zero nonnegative bounded before_mem late⟩

/-- The second of two equal rows keeps its artificial column, and no later pivot changes it. -/
theorem rows_left_by_driveOut_redundantRun :
    let run := redundantRun .dantzig
    Run.create redundantProblem (thousandth .dantzig) = .ok run ∧
      (run.after 2).state = .iterating .one ∧ (run.after 3).state = .iterating .two ∧
      (run.after 3).tableau.basicColumn? 2 = some 4 ∧ (run.after 3).tableau.IsArtificial 4 ∧
      ∀ col < run.form.firstArtificial, |(run.after 3).tableau.cell 2 col| ≤ 1 / 1000 := by
  intro run
  have created : Run.create redundantProblem (thousandth .dantzig) = .ok run :=
    create_redundantRun .dantzig
  have one : (run.after 2).state = .iterating .one := by decide +kernel
  have two : (run.after 3).state = .iterating .two := by decide +kernel
  have basic : (run.after 3).tableau.basicColumn? 2 = some 4 := by decide +kernel
  have artificial : (run.after 3).tableau.IsArtificial 4 := ⟨.artificial 2, by decide +kernel, rfl⟩
  obtain ⟨-, -, -, rows⟩ := rows_left_by_driveOut created one two
  obtain ⟨-, -, -, missed, -⟩ := rows 2 4 basic artificial
  refine ⟨created, one, two, basic, artificial, missed fun later member entering found => ?_⟩
  -- Only the last row is visited later, and its basic column is not artificial.
  obtain rfl : later = 3 := by
    have : (run.after 2).tableau.numConstraints = 3 := by decide +kernel
    rw [Finset.mem_Ioc] at member
    omega
  have idle : ((run.after 2).tableau.beforeVisit run.form.firstArtificial run.config.tolerance
      3).visitColumn? run.form.firstArtificial run.config.tolerance 3 = none := by decide +kernel
  rw [idle] at found
  cases found

/-- A first equation with a coefficient just below the tolerance, and a second one with a
coefficient just above it. -/
def magnifiedProblem : LinearProgram Rat where
  sense := .maximize
  objective := [0, 1]
  constraints :=
    [⟨[-1 / 2 ^ 30, 0], .equal, 0⟩, ⟨[1 / 2 ^ 29, -1], .equal, 0⟩, ⟨[0, 1], .atMost, 2⟩]

/-- The run of this problem under the usual configuration. -/
def magnifiedRun : Run Rat := .initial magnifiedProblem billionth

/-- The first row is passed over, and then the pivot of the second one magnifies what it has. So the
row keeps its artificial column beside a cell of magnitude 1/2 in another one, and the run ends with
an optimum of 2, though the second variable is zero in all feasible points. -/
theorem artificial_left_magnifiedRun :
    Run.create magnifiedProblem billionth = .ok magnifiedRun ∧
      (magnifiedRun.after 1).state = .iterating .one ∧
      (magnifiedRun.after 2).state = .iterating .two ∧
      (magnifiedRun.after 2).tableau.basicColumn? 1 = some 3 ∧
      (magnifiedRun.after 2).tableau.IsArtificial 3 ∧
      ¬(magnifiedRun.after 2).tableau.IsArtificial 1 ∧
      billionth.tolerance < |(magnifiedRun.after 2).tableau.cell 1 1| ∧
      (magnifiedRun.after 4).state = .finished .optimal ∧
      (magnifiedRun.after 4).tableau.objectiveValue = 2 ∧
      ∀ x, magnifiedProblem.Feasible x → x 1 = 0 := by
  have created : Run.create magnifiedProblem billionth = .ok magnifiedRun :=
    Run.create_eq_ok_initial (by decide +kernel) (by decide +kernel)
  have regular : ¬(magnifiedRun.after 2).tableau.IsArtificial 1 :=
    ((Run.lt_firstArtificial_iff created).1 (by decide +kernel)).2
  refine ⟨created, by decide +kernel, by decide +kernel, by decide +kernel,
    ⟨.artificial 1, by decide +kernel, rfl⟩, regular, by decide +kernel, by decide +kernel,
    by decide +kernel, fun x feasible => ?_⟩
  have first := feasible.satisfied ⟨[-1 / 2 ^ 30, 0], .equal, 0⟩ (by simp [magnifiedProblem])
  have second := feasible.satisfied ⟨[1 / 2 ^ 29, -1], .equal, 0⟩ (by simp [magnifiedProblem])
  norm_num [Constraint.Satisfied, Relation.Holds, Row.dot, Row.cell, Finset.sum_range_succ]
    at first second
  linarith

end SimplexMethod

import SimplexMethod.DriveOut
import SimplexMethod.Proofs.Tableau.Canonical

/-!
# What driving out leaves behind

Driving out makes a chain of exchanges, each of which brings a column that is not artificial into a
row whose basic column is. A row that has been visited either has a basic column that is not
artificial, or it has nothing but zeros to tolerance in those columns.

## Main definitions

* `Tableau.Visit`: what visiting a row does to a tableau
* `Tableau.IsSettled`: a row that need not be visited any more
* `Tableau.driveOutNumbers`: the numbers that driving out compares with the tolerance

## Main results

* `Tableau.driveOutRows_induction`: what every exchange keeps, driving out keeps
* `Tableau.failure_driveOut`: on rational numbers no pivot of driving out fails
* `Tableau.isSettled_driveOut`: with separated numbers all rows end up settled
* `Tableau.cell_rhsIndex_driveOut`: artificial columns at zero leave without a change of any
  right-hand side
-/

namespace SimplexMethod

/-- The numbers up to and including the first one that is hit. -/
def throughFirst {α : Type} (hits : α → Bool) : List α → List α
  | [] => []
  | value :: values => if hits value then [value] else value :: throughFirst hits values

theorem throughFirst_eq_self {α : Type} {hits : α → Bool} {values : List α}
    (missed : ∀ value ∈ values, hits value = false) : throughFirst hits values = values := by
  induction values with
  | nil => rfl
  | cons value values ih =>
    obtain ⟨first, rest⟩ := List.forall_mem_cons.1 missed
    simp [throughFirst, first, ih rest]

namespace Tableau

section Rows

variable {α : Type} [Scalar α] {tableau : Tableau α} {firstArtificial row col : Nat}
  {tolerance : α}

omit [Scalar α] in
theorem basicArtificial?_eq_some_iff {artificial : Nat} :
    tableau.basicArtificial? firstArtificial row = some artificial ↔
      row ∈ tableau.constraintIndices ∧ tableau.basicColumn row = artificial ∧
        firstArtificial ≤ artificial := by
  rw [basicArtificial?, Option.filter_eq_some_iff, decide_eq_true_iff, basicColumn?_eq_some_iff,
    and_assoc]

theorem replacement?_eq_some
    (found : tableau.replacement? firstArtificial tolerance row = some col) :
    col < firstArtificial ∧ isZero (tableau.cell row col) tolerance = false := by
  refine ⟨List.mem_range.1 (List.mem_of_find?_eq_some found), ?_⟩
  simpa using List.find?_some found

theorem replacement?_eq_none (missing : tableau.replacement? firstArtificial tolerance row = none)
    (inside : col < firstArtificial) : isZero (tableau.cell row col) tolerance = true := by
  simpa using List.find?_eq_none.1 missing col (List.mem_range.2 inside)

/-- The numbers that visiting the given rows compares with the tolerance. A pivot looks at its cell
once more. -/
def driveOutNumbers (firstArtificial : Nat) (tolerance : α) : List Nat → Tableau α → List α
  | [], _ => []
  | row :: rows, tableau =>
    match tableau.basicArtificial? firstArtificial row with
    | none => driveOutNumbers firstArtificial tolerance rows tableau
    | some _ =>
      throughFirst (!isZero · tolerance) ((List.range firstArtificial).map (tableau.cell row)) ++
        match tableau.replacement? firstArtificial tolerance row with
        | none => driveOutNumbers firstArtificial tolerance rows tableau
        | some col =>
          tableau.cell row col ::
            match tableau.pivot row col tolerance with
            | .error _ => []
            | .ok next => driveOutNumbers firstArtificial tolerance rows next

/-- What every exchange of driving out keeps holds in the end. -/
theorem driveOutRows_induction {P : Tableau α → Prop} {rows : List Nat}
    (exchange : ∀ (before after : Tableau α) (row col : Nat), P before →
      row ∈ before.constraintIndices → firstArtificial ≤ before.basicColumn row →
      col < firstArtificial → before.pivot row col tolerance = .ok after → P after)
    (start : P tableau) : P (driveOutRows firstArtificial tolerance rows tableau).tableau := by
  -- The induction is on the rows that are still to be visited, for every tableau that they may
  -- be visited in.
  induction rows generalizing tableau with
  | nil => exact start
  | cons row rows ih =>
    unfold driveOutRows
    split
    · exact ih start
    · rename_i artificial basic
      obtain ⟨row_mem, rfl, late⟩ := basicArtificial?_eq_some_iff.1 basic
      split
      · exact ih start
      · rename_i col found
        dsimp only
        split
        · exact start
        · rename_i next made
          exact ih (exchange _ _ row col start row_mem late (replacement?_eq_some found).1 made)

end Rows

variable {tableau : Tableau Rat} {firstArtificial : Nat} {tolerance : Rat}

/-! ## One visit -/

/-- What visiting a row does to the tableau. -/
inductive Visit (firstArtificial : Nat) (tolerance : Rat) (row : Nat)
    (before : Tableau Rat) : Tableau Rat → Prop
  | pass (early : before.basicArtificial? firstArtificial row = none) :
      Visit firstArtificial tolerance row before before
  | redundant (artificial : Nat)
      (basic : before.basicArtificial? firstArtificial row = some artificial)
      (missing : before.replacement? firstArtificial tolerance row = none) :
      Visit firstArtificial tolerance row before before
  | exchange (artificial col : Nat) (after : Tableau Rat)
      (basic : before.basicArtificial? firstArtificial row = some artificial)
      (found : before.replacement? firstArtificial tolerance row = some col)
      (made : before.pivot row col tolerance = .ok after) :
      Visit firstArtificial tolerance row before after

/-- The pivot that brings a replacement into the basis is made. -/
private theorem exists_pivot_of_replacement {artificial : Nat}
    (bounded : firstArtificial ≤ tableau.numColumns) {row col : Nat}
    (basic : tableau.basicArtificial? firstArtificial row = some artificial)
    (found : tableau.replacement? firstArtificial tolerance row = some col) :
    ∃ next, tableau.pivot row col tolerance = .ok next := by
  obtain ⟨row_mem, -, -⟩ := basicArtificial?_eq_some_iff.1 basic
  obtain ⟨early, nonzero⟩ := replacement?_eq_some found
  have large : tolerance < |tableau.cell row col| := by
    rwa [← not_le, ← isZero_iff, Bool.not_eq_true]
  rw [mem_constraintIndices] at row_mem
  have row_lt : row < tableau.numRows := by
    rw [numRows_eq]
    omega
  exact ⟨_, pivot_eq_ok_iff.2 ⟨row_mem.1, row_lt, early.trans_le bounded, large, rfl⟩⟩

/-- The other rows are visited in the tableau that the first visit leaves behind, and compare some
of the numbers of the whole. -/
theorem exists_visit (bounded : firstArtificial ≤ tableau.numColumns) (row : Nat) :
    ∃ after, Visit firstArtificial tolerance row tableau after ∧ ∀ rows,
      (driveOutRows firstArtificial tolerance (row :: rows) tableau).tableau =
        (driveOutRows firstArtificial tolerance rows after).tableau ∧
      (driveOutRows firstArtificial tolerance (row :: rows) tableau).failure =
        (driveOutRows firstArtificial tolerance rows after).failure ∧
      ∀ value ∈ driveOutNumbers firstArtificial tolerance rows after,
        value ∈ driveOutNumbers firstArtificial tolerance (row :: rows) tableau := by
  cases basic : tableau.basicArtificial? firstArtificial row with
  | none =>
    refine ⟨tableau, .pass basic, fun rows => ⟨?_, ?_, fun value member => ?_⟩⟩
    · simp only [driveOutRows, basic]
    · simp only [driveOutRows, basic]
    · simpa only [driveOutNumbers, basic] using member
  | some artificial =>
    cases found : tableau.replacement? firstArtificial tolerance row with
    | none =>
      refine ⟨tableau, .redundant artificial basic found,
        fun rows => ⟨?_, ?_, fun value member => ?_⟩⟩
      · simp only [driveOutRows, basic, found]
      · simp only [driveOutRows, basic, found]
      · simp only [driveOutNumbers, basic, found]
        exact List.mem_append_right _ member
    | some col =>
      obtain ⟨next, made⟩ := exists_pivot_of_replacement bounded basic found
      refine ⟨next, .exchange artificial col next basic found made,
        fun rows => ⟨?_, ?_, fun value member => ?_⟩⟩
      · simp only [driveOutRows, basic, found, made]
      · simp only [driveOutRows, basic, found, made]
      · simp only [driveOutNumbers, basic, found, made]
        exact List.mem_append_right _ (List.mem_cons_of_mem _ member)

namespace Visit

variable {row : Nat} {after : Tableau Rat}

theorem numColumns_eq (visit : Visit firstArtificial tolerance row tableau after)
    (nonnegative : 0 ≤ tolerance) : after.numColumns = tableau.numColumns := by
  cases visit with
  | pass => rfl
  | redundant => rfl
  | exchange artificial col _ basic found made =>
    exact (exchange_of_pivot nonnegative made).numColumns_eq

theorem constraintIndices_eq (visit : Visit firstArtificial tolerance row tableau after)
    (nonnegative : 0 ≤ tolerance) : after.constraintIndices = tableau.constraintIndices := by
  cases visit with
  | pass => rfl
  | redundant => rfl
  | exchange artificial col _ basic found made =>
    exact (exchange_of_pivot nonnegative made).constraintIndices_eq

end Visit

/-- No pivot of driving out fails. -/
theorem failure_driveOut (nonnegative : 0 ≤ tolerance)
    (bounded : firstArtificial ≤ tableau.numColumns) :
    (tableau.driveOut firstArtificial tolerance).failure = none := by
  rw [driveOut]
  generalize List.range' 1 tableau.numConstraints = rows
  induction rows generalizing tableau with
  | nil => rfl
  | cons row rows ih =>
    obtain ⟨after, visit, follows⟩ := exists_visit bounded row
    rw [(follows rows).2.1]
    exact ih ((visit.numColumns_eq nonnegative).symm ▸ bounded)

/-! ## Settled rows -/

/-- A row that need not be visited any more: its basic column is not artificial, or all of its cells
in such columns are zero. -/
def IsSettled (tableau : Tableau Rat) (firstArtificial row : Nat) : Prop :=
  firstArtificial ≤ tableau.basicColumn row → ∀ col < firstArtificial, tableau.cell row col = 0

theorem Exchange.isSettled {before after : Tableau Rat} {row col i : Nat}
    (exchange : before.Exchange row col after) (early : col < firstArtificial)
    (settled : i ≠ row → before.IsSettled firstArtificial i) :
    after.IsSettled firstArtificial i := by
  intro late j inside
  rw [exchange.basicColumn_eq] at late
  by_cases own : i = row
  · rw [if_pos own] at late
    omega
  · rw [if_neg own] at late
    rw [exchange.cell_eq, if_neg own, settled own late j inside, settled own late col early,
      zero_mul, sub_zero]

/-- A row without a replacement has been looked at in full. -/
private theorem isSettled_of_replacement?_eq_none {row : Nat}
    (separated : ∀ value ∈ throughFirst (!isZero · tolerance)
      ((List.range firstArtificial).map (tableau.cell row)), IsSeparated tolerance value)
    (missing : tableau.replacement? firstArtificial tolerance row = none) :
    tableau.IsSettled firstArtificial row := by
  have zeros (j : Nat) (inside : j < firstArtificial) :
      isZero (tableau.cell row j) tolerance = true := replacement?_eq_none missing inside
  -- Nothing was hit, so no cell was left out of the comparisons.
  have all : throughFirst (!isZero · tolerance)
      ((List.range firstArtificial).map (tableau.cell row)) =
        (List.range firstArtificial).map (tableau.cell row) := by
    apply throughFirst_eq_self
    intro value member
    obtain ⟨j, j_mem, rfl⟩ := List.mem_map.1 member
    simp [zeros j (List.mem_range.1 j_mem)]
  intro _ j early
  rw [all] at separated
  exact (separated _ (List.mem_map.2 ⟨j, List.mem_range.2 early, rfl⟩)).eq_zero
    ((isZero_iff _ _).1 (zeros j early))

namespace Visit

variable {row : Nat} {after : Tableau Rat}

/-- A visit leaves settled rows settled. -/
theorem isSettled_of_isSettled (visit : Visit firstArtificial tolerance row tableau after)
    (nonnegative : 0 ≤ tolerance) {i : Nat} (settled : tableau.IsSettled firstArtificial i) :
    after.IsSettled firstArtificial i := by
  cases visit with
  | pass => exact settled
  | redundant => exact settled
  | exchange artificial col _ basic found made =>
    exact (exchange_of_pivot nonnegative made).isSettled (replacement?_eq_some found).1
      fun _ => settled

/-- With separated numbers the visited row is settled. -/
private theorem isSettled (visit : Visit firstArtificial tolerance row tableau after)
    (nonnegative : 0 ≤ tolerance) (row_mem : row ∈ tableau.constraintIndices) {rows : List Nat}
    (separated : ∀ value ∈ driveOutNumbers firstArtificial tolerance (row :: rows) tableau,
      IsSeparated tolerance value) : after.IsSettled firstArtificial row := by
  cases visit with
  | pass none_ =>
    intro late
    rw [basicArtificial?_eq_some_iff.2 ⟨row_mem, rfl, late⟩] at none_
    cases none_
  | redundant artificial basic missing =>
    refine isSettled_of_replacement?_eq_none (fun value member => separated value ?_) missing
    simp only [driveOutNumbers, basic, missing]
    exact List.mem_append_left _ member
  | exchange artificial col _ basic found made =>
    exact (exchange_of_pivot nonnegative made).isSettled (replacement?_eq_some found).1
      fun other => absurd rfl other

end Visit

private theorem isSettled_driveOutRows (nonnegative : 0 ≤ tolerance)
    (bounded : firstArtificial ≤ tableau.numColumns) {rows : List Nat}
    (inside : ∀ row ∈ rows, row ∈ tableau.constraintIndices)
    (separated : ∀ value ∈ driveOutNumbers firstArtificial tolerance rows tableau,
      IsSeparated tolerance value) {i : Nat}
    (known : i ∈ rows ∨ tableau.IsSettled firstArtificial i) :
    (driveOutRows firstArtificial tolerance rows tableau).tableau.IsSettled firstArtificial i := by
  -- The invariant is that each row is settled or still to be visited.
  induction rows generalizing tableau with
  | nil => exact known.resolve_left (by simp)
  | cons row rows ih =>
    obtain ⟨row_mem, rest_mem⟩ := List.forall_mem_cons.1 inside
    obtain ⟨after, visit, follows⟩ := exists_visit bounded row
    obtain ⟨tableau_eq, -, numbers⟩ := follows rows
    rw [tableau_eq]
    refine ih ((visit.numColumns_eq nonnegative).symm ▸ bounded) (fun r r_mem => ?_)
      (fun value member => separated value (numbers value member)) ?_
    · rw [visit.constraintIndices_eq nonnegative]
      exact rest_mem r r_mem
    · -- The visited row is settled now, and the rows that were settled still are.
      rcases known with member | settled
      · rcases List.mem_cons.1 member with rfl | later
        · exact .inr (visit.isSettled nonnegative row_mem separated)
        · exact .inl later
      · exact .inr (visit.isSettled_of_isSettled nonnegative settled)

/-- With separated numbers every constraint row is settled when all have been visited. -/
theorem isSettled_driveOut (nonnegative : 0 ≤ tolerance)
    (separated : ∀ value ∈ driveOutNumbers firstArtificial tolerance
      (List.range' 1 tableau.numConstraints) tableau, IsSeparated tolerance value)
    (bounded : firstArtificial ≤ tableau.numColumns) {row : Nat}
    (member : row ∈ tableau.constraintIndices) :
    (tableau.driveOut firstArtificial tolerance).tableau.IsSettled firstArtificial row :=
  isSettled_driveOutRows nonnegative bounded (fun _ => mem_range'_iff.1) separated
    (.inl (mem_range'_iff.2 member))

/-! ## Right-hand sides -/

/-- The artificial columns that are basic have the value zero. -/
def ArtificialsAtZero (tableau : Tableau Rat) (firstArtificial : Nat) : Prop :=
  ∀ row ∈ tableau.constraintIndices, firstArtificial ≤ tableau.basicColumn row →
    tableau.cell row tableau.rhsIndex = 0

/-- An exchange in a row with right-hand side zero changes no right-hand side. -/
theorem Exchange.cell_rhsIndex_eq {before after : Tableau Rat} {row col : Nat}
    (exchange : before.Exchange row col after) (zero : before.cell row before.rhsIndex = 0)
    (i : Nat) : after.cell i after.rhsIndex = before.cell i before.rhsIndex := by
  have same : after.rhsIndex = before.rhsIndex := exchange.numColumns_eq
  rw [same, exchange.cell_eq, zero, zero_div, mul_zero, sub_zero]
  split
  · subst i
    exact zero.symm
  · rfl

/-- Driving out artificial columns that are zero changes no right-hand side. -/
theorem cell_rhsIndex_driveOut (nonnegative : 0 ≤ tolerance)
    (zero : tableau.ArtificialsAtZero firstArtificial) (row : Nat) :
    let driven := (tableau.driveOut firstArtificial tolerance).tableau
    driven.ArtificialsAtZero firstArtificial ∧
      driven.cell row driven.rhsIndex = tableau.cell row tableau.rhsIndex := by
  -- Right-hand sides and artificial columns are kept together: as long as the latter are zero the
  -- former do not change, and the other way round.
  refine driveOutRows_induction
    (P := fun reached => reached.ArtificialsAtZero firstArtificial ∧
      reached.cell row reached.rhsIndex = tableau.cell row tableau.rhsIndex)
    (fun before after r col ⟨at_zero, kept⟩ r_mem late early made => ?_) ⟨zero, rfl⟩
  have exchange := exchange_of_pivot nonnegative made
  have unchanged := exchange.cell_rhsIndex_eq (at_zero r r_mem late)
  refine ⟨fun i i_mem i_late => ?_, (unchanged row).trans kept⟩
  rw [exchange.basicColumn_eq] at i_late
  rw [exchange.constraintIndices_eq] at i_mem
  rw [unchanged]
  split at i_late
  · omega
  · exact at_zero i i_mem i_late

end Tableau

end SimplexMethod

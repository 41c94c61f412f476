import Mathlib.Algebra.BigOperators.Fin
import SimplexMethod.Proofs.StandardForm.Layout

/-!
# Points of a problem and solutions of its standard form

A feasible point becomes a solution of the first tableau when every slack and surplus column takes
the distance between the two sides of its row and every artificial column is zero. In the other
direction, a non-negative solution in which the artificial columns are zero is a feasible point.

## Main definitions

* `LinearProgram.extend`: the values of all columns at a point

## Main results

* `LinearProgram.dot_standardTableau`: a row of the first tableau as a linear form
* `LinearProgram.solves_extend`: a point that satisfies the constraints gives a solution
* `LinearProgram.satisfied_of_solves`, `LinearProgram.feasible_of_solves`: a solution gives a point
-/

namespace SimplexMethod

/-! ## The rows of the first tableau as linear forms -/

private theorem sum_filterMap_eq_zero {β : Type} {entries : List β} {pick : β → Option Column}
    {f : Column → Rat} (zero : ∀ entry ∈ entries, ∀ column ∈ pick entry, f column = 0) :
    ((entries.filterMap pick).map f).sum = 0 := by
  apply List.sum_eq_zero
  intro value member
  obtain ⟨column, column_mem, rfl⟩ := List.mem_map.1 member
  obtain ⟨entry, entry_mem, picked⟩ := List.mem_filterMap.1 column_mem
  exact zero entry entry_mem column picked

/-- Only the columns of one row count if the columns of all other rows add nothing. -/
private theorem sum_filterMap_single {entries : List (Constraint Rat × Nat)}
    {pick : Constraint Rat × Nat → Option Column} {f : Column → Rat} {own : Constraint Rat × Nat}
    (distinct : entries.Pairwise fun first second => first.2 ≠ second.2) (member : own ∈ entries)
    (zero : ∀ entry ∈ entries, entry.2 ≠ own.2 → ∀ column ∈ pick entry, f column = 0) :
    ((entries.filterMap pick).map f).sum = (pick own).elim 0 f := by
  induction entries with
  | nil => cases member
  | cons entry entries ih =>
    obtain ⟨apart, rest⟩ := List.pairwise_cons.1 distinct
    obtain ⟨zero_entry, zero_rest⟩ := List.forall_mem_cons.1 zero
    -- The numbers of the rows differ, so the row that counts is met once.
    rcases List.mem_cons.1 member with rfl | later
    · have others : ((entries.filterMap pick).map f).sum = 0 :=
        sum_filterMap_eq_zero fun other other_mem =>
          zero_rest other other_mem (apart other other_mem).symm
      rw [List.filterMap_cons]
      cases pick own <;> simp [others]
    · have own_sum := ih rest later zero_rest
      rw [List.filterMap_cons]
      cases picked : pick entry with
      | none => exact own_sum
      | some column =>
        rw [List.map_cons, List.sum_cons, zero_entry (apart own later) column picked, zero_add,
          own_sum]

namespace LinearProgram

variable {problem : LinearProgram Rat}

/-- The share of the slack or surplus column in the value of a row. -/
def slackShare (relation : Relation) (row : Nat) (w : Column → Rat) : Rat :=
  match relation with
  | .atMost => w (.slack row)
  | .atLeast => -w (.surplus row)
  | .equal => 0

/-- The share of the artificial column in the value of a row. -/
def artificialShare (relation : Relation) (row : Nat) (w : Column → Rat) : Rat :=
  match relation with
  | .atMost => 0
  | .atLeast | .equal => w (.artificial row)

section Shares

variable {constraint : Constraint Rat} {row : Nat}

private theorem sum_decisionColumns (arity : constraint.coefficients.length = problem.numVariables)
    {v : Nat → Rat} {w : Column → Rat}
    (agree : ∀ index < problem.numVariables, v index = w (.decision index)) :
    (problem.decisionColumns.map fun column => constraint.entry row column * w column).sum =
      Row.dot constraint.coefficients v := by
  rw [Row.dot, arity, decisionColumns, List.map_map, ← List.sum_toFinset _ List.nodup_range,
    List.toFinset_range]
  apply Finset.sum_congr rfl
  intro index member
  rw [agree index (Finset.mem_range.1 member)]
  rfl

variable (member : (constraint, row) ∈ problem.normalizedRows)

include member

private theorem sum_inequalityColumns (w : Column → Rat) :
    (problem.inequalityColumns.map fun column => constraint.entry row column * w column).sum =
      slackShare constraint.relation row w := by
  refine (sum_filterMap_single problem.pairwise_normalizedRows member ?_).trans ?_
  · intro entry _ different column picked
    exact mul_eq_zero_of_left (Constraint.entry_inequalityColumn different picked) _
  · cases constraint.relation <;> simp [Relation.inequalityColumn?, slackShare, Constraint.entry]

private theorem sum_artificialColumns (w : Column → Rat) :
    (problem.artificialColumns.map fun column => constraint.entry row column * w column).sum =
      artificialShare constraint.relation row w := by
  refine (sum_filterMap_single problem.pairwise_normalizedRows member ?_).trans ?_
  · intro entry _ different column picked
    exact mul_eq_zero_of_left (Constraint.entry_artificialColumn different picked) _
  · cases constraint.relation <;>
      simp [Relation.artificialColumn?, artificialShare, Constraint.entry]

/-- The value of a row is that of its constraint and of the columns that belong to the row. -/
theorem dot_standardTableau (arity : constraint.coefficients.length = problem.numVariables)
    {v : Nat → Rat} {w : Column → Rat}
    (agree : ∀ col (inside : col < problem.standardColumns.length),
      v col = w problem.standardColumns[col]) :
    problem.standardTableau.dot row v =
      Row.dot constraint.coefficients v + slackShare constraint.relation row w +
        artificialShare constraint.relation row w +
        constraint.rhs * v problem.standardTableau.rhsIndex := by
  -- A sum over places becomes a sum over the columns that stand there.
  have columns : ∑ col ∈ Finset.range problem.standardColumns.length,
      problem.standardTableau.cell row col * v col =
        (problem.standardColumns.map fun column => constraint.entry row column * w column).sum := by
    rw [Finset.sum_range, ← Fin.sum_univ_fun_getElem]
    apply Finset.sum_congr rfl
    intro col _
    rw [cell_standardTableau member col.isLt, agree col col.isLt]
  have decisions : ∀ index < problem.numVariables, v index = w (.decision index) := by
    intro index inside
    obtain ⟨early, column⟩ :=
      List.getElem?_eq_some_iff.1 (problem.standardColumns_decision inside)
    rw [agree index early, column]
  rw [Tableau.dot, Finset.sum_range_succ]
  rw [← cell_rhsIndex_standardTableau member, ← sum_decisionColumns arity decisions,
    ← sum_inequalityColumns member, ← sum_artificialColumns member,
    ← List.sum_append, ← List.sum_append, ← List.map_append, ← List.map_append]
  exact congrArg (· + _) columns

end Shares

/-! ## From points to solutions -/

/-- The distance between the two sides of a constraint row at a point. -/
def slackness (problem : LinearProgram Rat) (x : Nat → Rat) (row : Nat) : Rat :=
  problem.constraints[row - 1]?.elim 0 fun constraint =>
    |Row.dot constraint.coefficients x - constraint.rhs|

/-- The value of a column at a point. -/
def columnValue (problem : LinearProgram Rat) (x : Nat → Rat) : Column → Rat
  | .decision index => x index
  | .slack row | .surplus row => problem.slackness x row
  | .artificial _ => 0

/-- The values of all columns at a point, with `-1` in the place of the right-hand side. -/
def extend (problem : LinearProgram Rat) (x : Nat → Rat) : Nat → Rat := fun col =>
  problem.standardColumns[col]?.elim (-1) (problem.columnValue x)

theorem slackness_nonneg (x : Nat → Rat) (row : Nat) : 0 ≤ problem.slackness x row := by
  unfold slackness
  cases problem.constraints[row - 1]? with
  | none => rfl
  | some constraint => exact abs_nonneg _

theorem extend_of_lt (x : Nat → Rat) {col : Nat} (inside : col < problem.standardColumns.length) :
    problem.extend x col = problem.columnValue x problem.standardColumns[col] := by
  simp [extend, inside]

theorem extend_decision (x : Nat → Rat) {index : Nat} (inside : index < problem.numVariables) :
    problem.extend x index = x index := by
  simp [extend, problem.standardColumns_decision inside, columnValue]

theorem extend_rhsIndex (x : Nat → Rat) :
    problem.extend x problem.standardTableau.rhsIndex = -1 := by
  simp [extend, Tableau.rhsIndex, Tableau.numColumns, standardTableau]

theorem extend_artificial (x : Nat → Rat) {col : Nat}
    (inside : col < problem.standardColumns.length)
    (late : (StandardForm.ofProblem problem).firstArtificial ≤ col) :
    problem.extend x col = 0 := by
  have artificial := (problem.isArtificial_iff inside).2 late
  rw [extend_of_lt x inside]
  cases column : problem.standardColumns[col] <;> rw [column] at artificial <;>
    first | rfl | cases artificial

theorem extend_nonneg {x : Nat → Rat} (feasible : problem.Feasible x) {col : Nat}
    (inside : col < problem.standardColumns.length) : 0 ≤ problem.extend x col := by
  rw [extend_of_lt x inside]
  cases column : problem.standardColumns[col] with
  | slack row | surplus row => exact slackness_nonneg x row
  | artificial row => rfl
  | decision index =>
    refine feasible.nonneg index ?_
    have member : Column.decision index ∈ problem.standardColumns :=
      column ▸ List.getElem_mem inside
    rcases List.mem_append.1 member with early | late
    · rcases List.mem_append.1 early with decision | inequality
      · simpa [decisionColumns] using decision
      · obtain ⟨row, same⟩ := problem.mem_inequalityColumns inequality
        simp at same
    · obtain ⟨row, same⟩ := problem.mem_artificialColumns late
      cases same

/-- Every constraint has one coefficient per decision variable. -/
def HasArity (problem : LinearProgram Rat) : Prop :=
  ∀ constraint ∈ problem.constraints, constraint.coefficients.length = problem.numVariables

/-- A normalized row comes from the constraint with its number. -/
theorem exists_of_mem_normalizedRows {constraint : Constraint Rat} {row : Nat}
    (member : (constraint, row) ∈ problem.normalizedRows) :
    ∃ source ∈ problem.constraints, source.normalized = constraint ∧
      problem.constraints[row - 1]? = some source := by
  obtain ⟨-, at_row⟩ := List.mk_mem_zipIdx_iff_le_and_getElem?_sub.1 member
  rw [List.getElem?_map, Option.map_eq_some_iff] at at_row
  obtain ⟨source, listed, normalized⟩ := at_row
  exact ⟨source, List.mem_of_getElem? listed, normalized, listed⟩

theorem arity_normalizedRow (arity : problem.HasArity) {constraint : Constraint Rat} {row : Nat}
    (member : (constraint, row) ∈ problem.normalizedRows) :
    constraint.coefficients.length = problem.numVariables := by
  obtain ⟨source, source_mem, rfl, -⟩ := exists_of_mem_normalizedRows member
  rw [Constraint.length_normalized, arity source source_mem]

/-- A linear form in the decision variables does not see the other columns. -/
theorem dot_extend {row : Row Rat} (fits : row.length ≤ problem.numVariables) (x : Nat → Rat) :
    row.dot (problem.extend x) = row.dot x :=
  Row.dot_congr fun _ inside => extend_decision x (inside.trans_le fits)

/-- A point that satisfies the constraints, extended to all columns, solves the first tableau. -/
theorem solves_extend (arity : problem.HasArity) {x : Nat → Rat}
    (satisfied : ∀ constraint ∈ problem.constraints, constraint.Satisfied x) :
    problem.standardTableau.Solves (problem.extend x) := by
  intro row row_mem
  obtain ⟨constraint, member⟩ := exists_normalizedRow row_mem
  obtain ⟨source, source_mem, rfl, listed⟩ := exists_of_mem_normalizedRows member
  have width := arity_normalizedRow arity member
  have distance : problem.slackness x row =
      |Row.dot source.normalized.coefficients x - source.normalized.rhs| := by
    rw [Constraint.abs_normalized, slackness, listed]
    rfl
  have satisfied := Constraint.satisfied_normalized.2 (satisfied source source_mem)
  rw [dot_standardTableau member width fun col inside => extend_of_lt x inside, dot_extend width.le,
    extend_rhsIndex]
  unfold Constraint.Satisfied at satisfied
  cases relation : source.normalized.relation <;>
    simp only [relation, Relation.Holds] at satisfied <;>
    simp only [slackShare, artificialShare, columnValue, distance]
  · rw [abs_of_nonpos (by linarith)]
    ring
  · rw [abs_of_nonneg (by linarith)]
    ring
  · rw [satisfied]
    ring

/-! ## From solutions to points -/

section Owned

variable {constraint : Constraint Rat} {row : Nat} {column : Column}

theorem inequalityColumn_mem (member : (constraint, row) ∈ problem.normalizedRows)
    (own : constraint.relation.inequalityColumn? row = some column) :
    column ∈ problem.standardColumns :=
  List.mem_append_left _ (List.mem_append_right _ (List.mem_filterMap.2 ⟨_, member, own⟩))

theorem artificialColumn_mem (member : (constraint, row) ∈ problem.normalizedRows)
    (own : constraint.relation.artificialColumn? row = some column) :
    column ∈ problem.standardColumns :=
  List.mem_append_right _ (List.mem_filterMap.2 ⟨_, member, own⟩)

end Owned

/-- The value of a column, where the values are given by place. -/
def valueOf (problem : LinearProgram Rat) (v : Nat → Rat) (column : Column) : Rat :=
  v (problem.standardColumns.idxOf column)

/-- No column appears twice, so a column is found at its place. -/
theorem eq_valueOf (v : Nat → Rat) (col : Nat) (inside : col < problem.standardColumns.length) :
    v col = problem.valueOf v problem.standardColumns[col] := by
  rw [valueOf, problem.nodup_standardColumns.idxOf_getElem]

/-- A constraint holds if its row has no negative slack or surplus and no artificial value. -/
private theorem satisfied_of_shares {constraint : Constraint Rat} {row : Nat} {x : Nat → Rat}
    {w : Column → Rat}
    (value : Row.dot constraint.coefficients x + slackShare constraint.relation row w +
      artificialShare constraint.relation row w + constraint.rhs * -1 = 0)
    (slack : ∀ column, constraint.relation.inequalityColumn? row = some column → 0 ≤ w column)
    (artificial : ∀ column, constraint.relation.artificialColumn? row = some column →
      w column = 0) : constraint.Satisfied x := by
  unfold Constraint.Satisfied
  cases relation : constraint.relation <;>
    simp only [relation, slackShare, artificialShare] at value slack artificial <;>
    simp only [Relation.Holds]
  · have := slack _ rfl
    linarith
  · have := slack _ rfl
    have := artificial _ rfl
    linarith
  · have := artificial _ rfl
    linarith

/-- The decision columns come first, so every other column stands behind them. -/
theorem numVariables_le_idxOf {column : Column} (other : ∀ index, column ≠ .decision index)
    (member : column ∈ problem.standardColumns) :
    problem.numVariables ≤ problem.standardColumns.idxOf column := by
  by_contra early
  have found := problem.standardColumns_decision (not_le.1 early)
  rw [List.getElem?_eq_getElem (List.idxOf_lt_length_iff.2 member), List.getElem_idxOf] at found
  exact other _ (Option.some.inj found)

/-- A solution of the first tableau whose slack and surplus columns are not negative and whose
artificial columns are zero satisfies the constraints. -/
theorem satisfied_of_solves (arity : problem.HasArity) {v : Nat → Rat}
    (solves : problem.standardTableau.Solves v) (point : v problem.standardTableau.rhsIndex = -1)
    (nonneg : ∀ col < problem.standardColumns.length, problem.numVariables ≤ col → 0 ≤ v col)
    (zero : ∀ col < problem.standardColumns.length,
      (StandardForm.ofProblem problem).firstArtificial ≤ col → v col = 0) :
    ∀ constraint ∈ problem.constraints, constraint.Satisfied v := by
  intro source source_mem
  obtain ⟨index, inside, rfl⟩ := List.getElem_of_mem source_mem
  have member : (problem.constraints[index].normalized, index + 1) ∈ problem.normalizedRows := by
    rw [normalizedRows, List.mk_mem_zipIdx_iff_le_and_getElem?_sub]
    simp [inside]
  have value := solves _ (normalizedRow_mem member)
  rw [dot_standardTableau member (arity_normalizedRow arity member) (eq_valueOf v), point] at value
  refine Constraint.satisfied_normalized.1
    (satisfied_of_shares value (fun column own => ?_) fun column own => ?_)
  · have present := inequalityColumn_mem member own
    refine nonneg _ (List.idxOf_lt_length_iff.2 present) (numVariables_le_idxOf ?_ present)
    obtain ⟨row, same⟩ := problem.mem_inequalityColumns (List.mem_filterMap.2 ⟨_, member, own⟩)
    rcases same with rfl | rfl <;> simp
  · have present := List.idxOf_lt_length_iff.2 (artificialColumn_mem member own)
    refine zero _ present ((problem.isArtificial_iff present).1 ?_)
    rw [List.getElem_idxOf]
    obtain ⟨row, rfl⟩ := problem.mem_artificialColumns (List.mem_filterMap.2 ⟨_, member, own⟩)
    rfl

/-- A non-negative solution of the first tableau in which all artificial columns are zero is a
feasible point. -/
theorem feasible_of_solves (arity : problem.HasArity) {v : Nat → Rat}
    (solves : problem.standardTableau.Solves v) (point : v problem.standardTableau.rhsIndex = -1)
    (nonneg : ∀ col < problem.standardColumns.length, 0 ≤ v col)
    (zero : ∀ col < problem.standardColumns.length,
      (StandardForm.ofProblem problem).firstArtificial ≤ col → v col = 0) :
    problem.Feasible v := by
  have decisions : problem.numVariables ≤ problem.standardColumns.length :=
    problem.numVariables_le_firstArtificial.trans problem.firstArtificial_le
  exact ⟨fun index inside => nonneg index (inside.trans_le decisions),
    satisfied_of_solves arity solves point (fun col inside _ => nonneg col inside) zero⟩

end LinearProgram

end SimplexMethod

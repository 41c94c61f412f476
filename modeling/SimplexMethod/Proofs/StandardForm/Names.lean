import SimplexMethod.Proofs.StandardForm.Allocation

/-!
# Names and places of the columns of a standard form

The columns stand in the order of the rows that they belong to, and the number in the name of a
slack, surplus or artificial column is the number of its row. As no two columns have the same name,
the name of a column tells its cells.

## Main definitions

* `Tableau.IsUnitColumn`: a column with a single cell that is not zero
* `StandardForm.HasLayout`: the kinds, names, cells and basic columns of a standard form

## Main results

* `Column.name_injective`: different columns have different names
* `StandardForm.build_hasLayout`: the columns of the standard form of a valid problem
-/

namespace SimplexMethod

variable {α : Type}

/-! ## Names -/

/-- A name is a letter for the kind of the column and a number. -/
theorem Column.name_injective : Function.Injective Column.name := by
  intro first second same
  have numbers {m n : Nat} (same : (toString m).toList = (toString n).toList) : m = n := by
    have digits : Nat.toDigits 10 m = Nat.toDigits 10 n := by simpa using same
    calc m = Nat.ofDigitChars 10 (Nat.toDigits 10 m) 0 := Nat.ofDigitChars_ten_toDigits.symm
      _ = n := by rw [digits, Nat.ofDigitChars_ten_toDigits]
  have chars := congrArg String.toList same
  cases first <;> cases second <;>
    simp only [name, String.toList_append, String.reduceToList, List.cons_append, List.nil_append,
      List.cons.injEq, Char.reduceEq, false_and, true_and] at chars
  · rw [Nat.succ.inj (numbers chars)]
  · rw [numbers chars]
  · rw [numbers chars]
  · rw [numbers chars]

theorem Column.name_ne_empty (column : Column) : column.name ≠ "" := by
  intro empty
  have chars := congrArg String.toList empty
  cases column <;> simp [name] at chars

/-! ## Cells -/

/-- The column has a single cell that is not zero, and this cell stands in a constraint row. -/
def Tableau.IsUnitColumn [Scalar α] (tableau : Tableau α) (col row : Nat) (value : α) : Prop :=
  row ∈ tableau.constraintIndices ∧ ∀ i, tableau.cell i col = if i = row then value else 0

namespace LinearProgram

variable [Scalar α] {problem : LinearProgram α}

/-- A slack, surplus or artificial column belongs to a row of the problem. -/
theorem row_mem_of_mem_standardColumns {column : Column} {row : Nat}
    (member : column ∈ problem.standardColumns)
    (own : column = .slack row ∨ column = .surplus row ∨ column = .artificial row) :
    row ∈ problem.standardTableau.constraintIndices := by
  rcases List.mem_append.1 member with early | artificial
  · rcases List.mem_append.1 early with decision | inequality
    · obtain ⟨index, -, rfl⟩ := List.mem_map.1 decision
      simp at own
    · obtain ⟨entry, entry_mem, picked⟩ := List.mem_filterMap.1 inequality
      have same : entry.2 = row := by
        obtain rfl | rfl := Relation.eq_of_inequalityColumn? picked <;> simpa using own
      exact same ▸ normalizedRow_mem entry_mem
  · obtain ⟨entry, entry_mem, picked⟩ := List.mem_filterMap.1 artificial
    have same : entry.2 = row := by
      obtain rfl := Relation.eq_of_artificialColumn? picked
      simpa using own
    exact same ▸ normalizedRow_mem entry_mem

/-- The name of a column tells which one it is. -/
theorem standardColumns_of_columnName {column : Column} {col : Nat}
    (name : problem.standardTableau.columnName col = column.name) :
    problem.standardColumns[col]? = some column := by
  rw [Tableau.columnName, Tableau.columnName?] at name
  change (problem.standardColumns[col]?.map Column.name).getD "" = column.name at name
  cases found : problem.standardColumns[col]? with
  | none =>
    rw [found] at name
    exact (column.name_ne_empty name.symm).elim
  | some other =>
    rw [found] at name
    rw [Column.name_injective name]

/-- A column with the name of a slack, surplus or artificial column has its only cell in the row
with the number in the name. -/
theorem isUnitColumn_of_columnName (column : Column) {row col : Nat} {value : α}
    (own : column = .slack row ∨ column = .surplus row ∨ column = .artificial row)
    (entry : ∀ (constraint : Constraint α) (i : Nat),
      constraint.entry i column = if row = i then value else 0)
    (name : problem.standardTableau.columnName col = column.name) :
    problem.standardTableau.IsUnitColumn col row value := by
  have found := standardColumns_of_columnName name
  have row_mem := row_mem_of_mem_standardColumns (List.mem_of_getElem? found) own
  exact ⟨row_mem, cell_standardTableau_of_entry entry row_mem found⟩

end LinearProgram

/-! ## The layout -/

/-- The kind of the column that takes up the difference of a row. -/
def Relation.inequalityKind? : Relation → Option ColumnKind
  | atMost => some .slack
  | atLeast => some .surplus
  | equal => none

/-- The kinds, names, cells and basic columns of a standard form are told by the normalized
constraints and their numbers. -/
structure StandardForm.HasLayout [Scalar α] (form : StandardForm α) (problem : LinearProgram α) :
    Prop where
  numDecision_eq : form.numDecision = problem.numVariables
  /-- The artificial columns begin behind one column for each inequality. -/
  firstArtificial_eq : form.firstArtificial = problem.numVariables + problem.numInequalities
  kinds_eq : form.tableau.columns.map Column.kind =
    List.replicate problem.numVariables .decision ++
      (problem.constraints.filterMap fun constraint =>
        constraint.normalized.relation.inequalityKind?) ++
      List.replicate problem.numArtificials .artificial
  names_eq : form.tableau.columns.map Column.name =
    (List.range problem.numVariables).map (fun index => "x" ++ toString (index + 1)) ++
      (problem.normalizedRows.filterMap fun entry =>
        match entry.1.relation with
        | .atMost => some ("s" ++ toString entry.2)
        | .atLeast => some ("e" ++ toString entry.2)
        | .equal => none) ++
      problem.normalizedRows.filterMap fun entry =>
        match entry.1.relation with
        | .atMost => none
        | .atLeast | .equal => some ("a" ++ toString entry.2)
  names_ne_empty : ∀ name ∈ form.tableau.columns.map Column.name, name ≠ ""
  names_nodup : (form.tableau.columns.map Column.name).Nodup
  slack (col row : Nat) : form.tableau.columnName col = "s" ++ toString row →
    form.tableau.IsUnitColumn col row 1
  surplus (col row : Nat) : form.tableau.columnName col = "e" ++ toString row →
    form.tableau.IsUnitColumn col row (-1)
  artificial (col row : Nat) : form.tableau.columnName col = "a" ++ toString row →
    form.tableau.IsUnitColumn col row 1
  /-- The basic column of a row is its own slack or artificial column. -/
  basis : ∀ entry ∈ problem.normalizedRows,
    form.tableau.columnName (form.tableau.basicColumn entry.2) =
      (if entry.1.relation = .atMost then "s" else "a") ++ toString entry.2
  phaseOneCosts_eq : form.phaseOneCosts = List.replicate form.firstArtificial 0 ++
    List.replicate problem.numArtificials (-1)

namespace LinearProgram

variable [Scalar α]

theorem map_kind_inequalityColumns (problem : LinearProgram α) :
    problem.inequalityColumns.map Column.kind = problem.constraints.filterMap fun constraint =>
      constraint.normalized.relation.inequalityKind? :=
  calc problem.inequalityColumns.map Column.kind
    _ = problem.normalizedRows.filterMap fun entry => entry.1.relation.inequalityKind? := by
      rw [inequalityColumns, List.map_filterMap]
      refine List.filterMap_congr fun entry _ => ?_
      cases entry.1.relation <;> rfl
    _ = (problem.normalizedRows.map Prod.fst).filterMap fun constraint =>
          constraint.relation.inequalityKind? := by
      rw [List.filterMap_map]
      rfl
    _ = problem.constraints.filterMap fun constraint =>
          constraint.normalized.relation.inequalityKind? := by
      rw [normalizedRows, List.zipIdx_map_fst, List.filterMap_map]
      rfl

theorem map_name_inequalityColumns (problem : LinearProgram α) :
    problem.inequalityColumns.map Column.name = problem.normalizedRows.filterMap fun entry =>
      match entry.1.relation with
      | .atMost => some ("s" ++ toString entry.2)
      | .atLeast => some ("e" ++ toString entry.2)
      | .equal => none := by
  rw [inequalityColumns, List.map_filterMap]
  refine List.filterMap_congr fun entry _ => ?_
  cases entry.1.relation <;> rfl

theorem map_name_artificialColumns (problem : LinearProgram α) :
    problem.artificialColumns.map Column.name = problem.normalizedRows.filterMap fun entry =>
      match entry.1.relation with
      | .atMost => none
      | .atLeast | .equal => some ("a" ++ toString entry.2) := by
  rw [artificialColumns, List.map_filterMap]
  refine List.filterMap_congr fun entry _ => ?_
  cases entry.1.relation <;> rfl

theorem hasLayout_ofProblem (problem : LinearProgram α) :
    (StandardForm.ofProblem problem).HasLayout problem where
  numDecision_eq := rfl
  firstArtificial_eq := by rw [numInequalities_eq]; rfl
  kinds_eq := by
    rw [numArtificials_eq, ← map_kind_artificialColumns, ← map_kind_decisionColumns,
      ← map_kind_inequalityColumns, ← List.map_append, ← List.map_append]
    rfl
  names_eq := by
    rw [← map_name_inequalityColumns, ← map_name_artificialColumns]
    change problem.standardColumns.map _ = _
    rw [standardColumns, List.map_append, List.map_append, decisionColumns, List.map_map]
    rfl
  names_ne_empty := by
    rintro name member rfl
    obtain ⟨column, -, empty⟩ := List.mem_map.1 member
    exact column.name_ne_empty empty
  names_nodup := problem.nodup_standardColumns.map Column.name_injective
  slack _ row name :=
    isUnitColumn_of_columnName (.slack row) (.inl rfl) (fun _ _ => rfl) name
  surplus _ row name :=
    isUnitColumn_of_columnName (.surplus row) (.inr (.inl rfl)) (fun _ _ => rfl) name
  artificial _ row name :=
    isUnitColumn_of_columnName (.artificial row) (.inr (.inr rfl)) (fun _ _ => rfl) name
  basis entry member := by
    have found : problem.standardTableau.columns[problem.standardColumns.idxOf
        (entry.1.relation.basicColumn entry.2)]? = some (entry.1.relation.basicColumn entry.2) :=
      List.getElem?_idxOf (basicColumn_mem_standardColumns member)
    change problem.standardTableau.columnName (problem.standardTableau.basicColumn entry.2) = _
    rw [basicColumn_standardTableau member, Tableau.columnName, Tableau.columnName?, found]
    cases entry.1.relation <;> rfl
  phaseOneCosts_eq := by
    rw [numArtificials_eq, ← length_early_columns]
    change problem.standardColumns.map _ = _
    rw [standardColumns, List.map_append]
    congr 1
    · refine List.map_eq_replicate_iff.2 fun column member => ?_
      rcases List.mem_append.1 member with decision | inequality
      · obtain ⟨index, -, rfl⟩ := List.mem_map.1 decision
        rfl
      · obtain ⟨row, rfl | rfl⟩ := problem.mem_inequalityColumns inequality <;> rfl
    · refine List.map_eq_replicate_iff.2 fun column member => ?_
      obtain ⟨row, rfl⟩ := problem.mem_artificialColumns member
      rfl

end LinearProgram

/-- The standard form of a valid problem is written column by column without a write that fails, and
kinds, names, cells and basic columns are those that belong to the rows. -/
theorem StandardForm.build_hasLayout [Scalar α] {problem : LinearProgram α}
    (valid : problem.validate = .ok ()) :
    ∃ form, build problem = .ok form ∧ form.HasLayout problem ∧
      problem.allocate = .ok {
        kinds := form.tableau.columns.map Column.kind
        names := form.tableau.columns.map Column.name
        rows := form.tableau.rows
        basis := form.tableau.basis
        nextInequality := form.firstArtificial
        nextArtificial := form.tableau.numColumns } := by
  have wellFormed := LinearProgram.validate_eq_ok_iff.1 valid
  exact ⟨ofProblem problem, build_eq_ok_iff.2 ⟨wellFormed, rfl⟩, problem.hasLayout_ofProblem,
    LinearProgram.allocate_eq (LinearProgram.defect?_eq_none_iff.1 wellFormed)⟩

/-- A problem with all relations, one of them behind a negative right-hand side. -/
def LinearProgram.mixedProblem : LinearProgram Rat where
  sense := .minimize
  objective := [1, 1]
  constraints := [⟨[1, 1], .equal, 4⟩, ⟨[1, 0], .atLeast, 1⟩, ⟨[0, -1], .atLeast, -5⟩]

theorem LinearProgram.validate_mixedProblem : mixedProblem.validate = .ok () := by
  rw [validate_eq_ok_iff, ← Option.isNone_iff_eq_none]
  decide +kernel

/-- The last row is a `<=` row after the change of its signs, so it takes a slack. -/
theorem StandardForm.build_hasLayout_mixedProblem :
    LinearProgram.mixedProblem.validate = .ok () ∧
    ∃ form, build LinearProgram.mixedProblem = .ok form ∧
      form.HasLayout LinearProgram.mixedProblem ∧
      form.tableau.columns.map Column.name = ["x1", "x2", "e2", "s3", "a1", "a2"] := by
  obtain ⟨form, built, layout, -⟩ := build_hasLayout LinearProgram.validate_mixedProblem
  obtain ⟨-, rfl⟩ := build_eq_ok_iff.1 built
  exact ⟨LinearProgram.validate_mixedProblem, _, built, layout, by decide +kernel⟩

end SimplexMethod

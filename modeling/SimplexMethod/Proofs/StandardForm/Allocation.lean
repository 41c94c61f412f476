import SimplexMethod.Proofs.Problem.WellFormed
import SimplexMethod.Proofs.StandardForm.Layout
import SimplexMethod.Proofs.Tableau.Checked

/-!
# Columns taken one row after the other

The columns of a standard form are the decision variables and one column for each inequality and
each row without a slack. Here they are taken while the rows are filled: the columns are counted in
advance, kinds and names are written over what stands in their places, and two counters tell the
next free places. Every write asks for the place it goes to, and fails if it is missing. No write
does, and the tableau that is filled in this way is the first tableau of the standard form.

## Main definitions

* `Allocation`: what has been written so far, and the two counters
* `LinearProgram.allocate`: the columns and rows of a problem, with a check of every write

## Main results

* `LinearProgram.addRow_reached`: a row takes the next places and no others
* `LinearProgram.allocate_eq`: no check fails, and the first tableau has been written
-/

namespace SimplexMethod

variable {α : Type}

/-! ## Checked writes -/

section Writes

variable {β : Type}

/-- A list with another entry in a place that it must have. -/
def write (missing : Missing) (list : List β) (index : Nat) (value : β) :
    Except Missing (List β) :=
  if index < list.length then .ok (list.set index value) else .error missing

theorem write_eq (missing : Missing) (front back : List β) (old value : β) :
    write missing (front ++ old :: back) front.length value = .ok (front ++ value :: back) := by
  rw [write, if_pos (by simp), List.set_append_right _ _ le_rfl, Nat.sub_self, List.set_cons_zero]

/-- Rows with another cell in a place that they must have. -/
def writeCell (rows : List (Row α)) (row col : Nat) (value : α) :
    Except Missing (List (Row α)) := do
  let cells ← orMissing (.cell ⟨row, col⟩) rows[row]?
  let cells ← write (.cell ⟨row, col⟩) cells col value
  write (.cell ⟨row, col⟩) rows row cells

theorem writeCell_eq (above below : List (Row α)) (front back : Row α) (old value : α) :
    writeCell (above ++ (front ++ old :: back) :: below) above.length front.length value =
      .ok (above ++ (front ++ value :: back) :: below) := by
  simp [writeCell, orMissing, write_eq]

/-- Rows with other cells in front of one row, which must be as many as are replaced. -/
def writeFront (rows : List (Row α)) (row count : Nat) (values : Row α) :
    Except Missing (List (Row α)) := do
  let cells ← orMissing (.cell ⟨row, count⟩) rows[row]?
  if values.length = count ∧ count ≤ cells.length then
    write (.cell ⟨row, count⟩) rows row (values ++ cells.drop count)
  else .error (.cell ⟨row, count⟩)

theorem writeFront_eq (above below : List (Row α)) (front back values : Row α)
    (length : values.length = front.length) :
    writeFront (above ++ (front ++ back) :: below) above.length front.length values =
      .ok (above ++ (values ++ back) :: below) := by
  simp [writeFront, orMissing, write_eq, length]

/-- A row of zeros is filled with its first cells and its last one. -/
theorem fill_eq [Scalar α] (above below : List (Row α)) (values : Row α) (count : Nat) (last : α) :
    (writeFront (above ++ List.replicate (values.length + count + 1) 0 :: below) above.length
      values.length values >>=
        fun rows => writeCell rows above.length (values.length + count) last) =
      .ok (above ++ (values ++ List.replicate count 0 ++ [last]) :: below) := by
  have front := writeFront_eq above below (List.replicate values.length 0)
    (List.replicate count 0 ++ [0]) values List.length_replicate.symm
  have cell := writeCell_eq above below (values ++ List.replicate count 0) [] 0 last
  rw [List.length_replicate, ← List.replicate_succ', List.replicate_append_replicate,
    ← Nat.add_assoc] at front
  rw [List.length_append, List.length_replicate] at cell
  rw [front, ok_bind, List.replicate_succ', ← List.append_assoc, cell]

end Writes

/-! ## The columns of some rows -/

namespace LinearProgram

/-- The slack and surplus columns of some rows. -/
def inequalitiesOf (entries : List (Constraint α × Nat)) : List Column :=
  entries.filterMap fun entry => entry.1.relation.inequalityColumn? entry.2

/-- The artificial columns of some rows. -/
def artificialsOf (entries : List (Constraint α × Nat)) : List Column :=
  entries.filterMap fun entry => entry.1.relation.artificialColumn? entry.2

variable {done todo : List (Constraint α × Nat)} {constraint : Constraint α} {row : Nat}

@[simp] theorem inequalitiesOf_nil : inequalitiesOf ([] : List (Constraint α × Nat)) = [] := rfl

@[simp] theorem artificialsOf_nil : artificialsOf ([] : List (Constraint α × Nat)) = [] := rfl

theorem inequalitiesOf_cons : inequalitiesOf ((constraint, row) :: todo) =
    (constraint.relation.inequalityColumn? row).toList ++ inequalitiesOf todo := by
  rw [inequalitiesOf, List.filterMap_cons]
  cases constraint.relation.inequalityColumn? row <;> rfl

theorem artificialsOf_cons : artificialsOf ((constraint, row) :: todo) =
    (constraint.relation.artificialColumn? row).toList ++ artificialsOf todo := by
  rw [artificialsOf, List.filterMap_cons]
  cases constraint.relation.artificialColumn? row <;> rfl

theorem inequalitiesOf_append : inequalitiesOf (done ++ todo) =
    inequalitiesOf done ++ inequalitiesOf todo := List.filterMap_append

theorem artificialsOf_append : artificialsOf (done ++ todo) =
    artificialsOf done ++ artificialsOf todo := List.filterMap_append

@[simp] theorem length_decisionColumns (problem : LinearProgram α) :
    problem.decisionColumns.length = problem.numVariables := by
  simp [decisionColumns]

theorem map_kind_decisionColumns (problem : LinearProgram α) :
    problem.decisionColumns.map Column.kind = List.replicate problem.numVariables .decision := by
  refine List.eq_replicate_iff.2 ⟨by simp, fun kind member => ?_⟩
  obtain ⟨column, column_mem, rfl⟩ := List.mem_map.1 member
  obtain ⟨index, -, rfl⟩ := List.mem_map.1 column_mem
  rfl

/-- Picking something for exactly the entries that are counted picks as many. -/
theorem length_filterMap_zipIdx {constraints : List (Constraint α)} (start : Nat)
    {pick : Constraint α × Nat → Option Column} {counted : Constraint α → Bool}
    (agree : ∀ entry, (pick entry).isSome = counted entry.1) :
    ((constraints.zipIdx start).filterMap pick).length = constraints.countP counted := by
  induction constraints generalizing start with
  | nil => rfl
  | cons constraint constraints ih =>
    have same := agree (constraint, start)
    rw [List.zipIdx_cons, List.filterMap_cons, List.countP_cons, ← ih (start + 1), ← same]
    cases pick (constraint, start) <;> simp

end LinearProgram

/-! ## Taking columns -/

/-- What has been written after some rows, and the places of the next columns. -/
structure Allocation (α : Type) where
  kinds : List ColumnKind
  names : List String
  rows : List (Row α)
  basis : List Nat
  nextInequality : Nat
  nextArtificial : Nat

variable [Scalar α]

namespace Allocation

/-- A row takes the next slack or surplus column. -/
def addInequality (done : Allocation α) (row : Nat) (column : Column) (value : α) :
    Except Missing (Allocation α) := do
  let col := done.nextInequality
  let rows ← writeCell done.rows row col value
  let kinds ← write (.column col) done.kinds col column.kind
  let names ← write (.column col) done.names col column.name
  return { done with rows, kinds, names, nextInequality := col + 1 }

/-- A row takes the next artificial column, which starts in the basis. Its kind stands there. -/
def addArtificial (done : Allocation α) (row : Nat) : Except Missing (Allocation α) := do
  let col := done.nextArtificial
  let rows ← writeCell done.rows row col 1
  let names ← write (.column col) done.names col (Column.artificial row).name
  return { done with rows, names, basis := done.basis ++ [col], nextArtificial := col + 1 }

/-- A row takes the columns of its relation. -/
def addColumns (done : Allocation α) (row : Nat) : Relation → Except Missing (Allocation α)
  | .atMost => do
    let added ← done.addInequality row (.slack row) 1
    return { added with basis := added.basis ++ [done.nextInequality] }
  | .atLeast => do
    let added ← done.addInequality row (.surplus row) (-1)
    added.addArtificial row
  | .equal => done.addArtificial row

/-- A row is filled and takes its columns. -/
def addRow (numVariables numColumns : Nat) (done : Allocation α) (entry : Constraint α × Nat) :
    Except Missing (Allocation α) := do
  let rows ← writeFront done.rows entry.2 numVariables entry.1.coefficients
  let rows ← writeCell rows entry.2 numColumns entry.1.rhs
  { done with rows }.addColumns entry.2 entry.1.relation

end Allocation

namespace LinearProgram

/-- The number of constraints that get a slack or surplus column. -/
def numInequalities (problem : LinearProgram α) : Nat :=
  (problem.constraints.map Constraint.normalized).countP fun constraint =>
    constraint.relation ≠ .equal

/-- The number of constraints that get an artificial column. -/
def numArtificials (problem : LinearProgram α) : Nat :=
  (problem.constraints.map Constraint.normalized).countP fun constraint =>
    constraint.relation ≠ .atMost

/-- The columns and rows of a problem, written one row after the other. Before the first row every
column behind the decision variables is artificial and has no name, and all cells are zero. -/
def allocate (problem : LinearProgram α) : Except Missing (Allocation α) :=
  let numVariables := problem.numVariables
  let firstArtificial := numVariables + problem.numInequalities
  let numColumns := firstArtificial + problem.numArtificials
  problem.normalizedRows.foldlM (Allocation.addRow numVariables numColumns) {
    kinds := List.replicate numVariables .decision ++
      List.replicate (numColumns - numVariables) .artificial
    names := problem.decisionColumns.map Column.name ++
      List.replicate (numColumns - numVariables) ""
    rows := List.replicate (problem.constraints.length + 1) (List.replicate (numColumns + 1) 0)
    basis := []
    nextInequality := numVariables
    nextArtificial := firstArtificial }

end LinearProgram

/-! ## What has been taken -/

namespace Allocation

/-- Some columns have been taken. Of the columns that have been counted some are free, before the
artificial ones that have been taken and behind them. -/
def taken (early : List Column) (free : Nat) (artificials : List Column) (freeArtificials : Nat)
    (rows : List (Row α)) (basis : List Nat) : Allocation α where
  kinds := early.map Column.kind ++
    List.replicate (free + artificials.length + freeArtificials) .artificial
  names := early.map Column.name ++ (List.replicate free "" ++ (artificials.map Column.name ++
    List.replicate freeArtificials ""))
  rows
  basis
  nextInequality := early.length
  nextArtificial := early.length + free + artificials.length

section Taken

variable {early artificials : List Column} {free freeArtificials row : Nat}
  {above below : List (Row α)} {basis : List Nat}

theorem addInequality_taken (column : Column) (front back : Row α) (value : α)
    (front_eq : front.length = early.length) :
    (taken early (free + 1) artificials freeArtificials (above ++ (front ++ 0 :: back) :: below)
      basis).addInequality above.length column value =
    .ok (taken (early ++ [column]) free artificials freeArtificials
      (above ++ (front ++ value :: back) :: below) basis) := by
  have cells := writeCell_eq above below front back 0 value
  have kinds := write_eq (.column early.length) (early.map Column.kind)
    (List.replicate (free + artificials.length + freeArtificials) .artificial) .artificial
    column.kind
  have names := write_eq (.column early.length) (early.map Column.name)
    (List.replicate free "" ++ (artificials.map Column.name ++ List.replicate freeArtificials ""))
    "" column.name
  rw [front_eq] at cells
  rw [List.length_map] at kinds names
  simp [taken, addInequality, cells, kinds, names, Nat.add_right_comm _ 1, List.replicate_succ]
  omega

theorem addArtificial_taken (front back : Row α)
    (front_eq : front.length = early.length + free + artificials.length) :
    (taken early free artificials (freeArtificials + 1) (above ++ (front ++ 0 :: back) :: below)
      basis).addArtificial above.length =
    .ok (taken early free (artificials ++ [.artificial above.length]) freeArtificials
      (above ++ (front ++ 1 :: back) :: below)
      (basis ++ [early.length + free + artificials.length])) := by
  have cells := writeCell_eq above below front back 0 1
  have names := write_eq (.column (early.length + free + artificials.length))
    (early.map Column.name ++ (List.replicate free "" ++ artificials.map Column.name))
    (List.replicate freeArtificials "") "" (Column.artificial above.length).name
  rw [front_eq] at cells
  simp only [List.length_append, List.length_map, List.length_replicate, List.append_assoc,
    ← Nat.add_assoc] at names
  simp [taken, addArtificial, cells, names, List.replicate_succ]
  omega

/-- A row takes the places of its own columns, and its cells stand there. -/
theorem addColumns_taken (constraint : Constraint α) {own ownArtificial : List Column}
    (own_eq : own = (constraint.relation.inequalityColumn? above.length).toList)
    (ownArtificial_eq : ownArtificial =
      (constraint.relation.artificialColumn? above.length).toList)
    (front middle back : Row α) (front_eq : front.length = early.length)
    (middle_eq : middle.length = artificials.length) :
    (taken early (own.length + free) artificials (ownArtificial.length + freeArtificials)
      (above ++ (front ++ List.replicate (own.length + free) 0 ++ middle ++
        List.replicate (ownArtificial.length + freeArtificials) 0 ++ back) :: below)
      basis).addColumns above.length constraint.relation =
    .ok (taken (early ++ own) free (artificials ++ ownArtificial) freeArtificials
      (above ++ (front ++ own.map (constraint.entry above.length) ++ List.replicate free 0 ++
        middle ++ ownArtificial.map (constraint.entry above.length) ++
        List.replicate freeArtificials 0 ++ back) :: below)
      (basis ++ [if constraint.relation = .atMost then early.length
        else (early ++ own).length + free + artificials.length])) := by
  subst own_eq ownArtificial_eq
  cases relation : constraint.relation with
  | atMost =>
    have added : (taken early (free + 1) artificials freeArtificials (above ++ (front ++ 0 ::
        (List.replicate free 0 ++ middle ++ List.replicate freeArtificials 0 ++ back)) :: below)
        basis).addInequality above.length (.slack above.length) 1 = _ :=
      addInequality_taken _ _ _ _ front_eq
    simp only [List.append_assoc] at added
    simp [addColumns, Relation.inequalityColumn?, Relation.artificialColumn?, Constraint.entry,
      Nat.add_comm 1 free, List.replicate_succ, added]
    rfl
  | atLeast =>
    have added : (taken early (free + 1) artificials (freeArtificials + 1) (above ++ (front ++ 0 ::
        (List.replicate free 0 ++ middle ++ List.replicate (freeArtificials + 1) 0 ++ back)) ::
        below) basis).addInequality above.length (.surplus above.length) (-1) = _ :=
      addInequality_taken _ _ _ _ front_eq
    have added' : (taken (early ++ [.surplus above.length]) free artificials (freeArtificials + 1)
        (above ++ ((front ++ -1 :: (List.replicate free 0 ++ middle)) ++ 0 ::
          (List.replicate freeArtificials 0 ++ back)) :: below) basis).addArtificial
        above.length = _ := addArtificial_taken _ _ (by simp [front_eq, middle_eq]; omega)
    simp only [List.append_assoc, List.cons_append, List.replicate_succ] at added added'
    simp [addColumns, Relation.inequalityColumn?, Relation.artificialColumn?, Constraint.entry,
      Nat.add_comm 1, List.replicate_succ, added, added']
  | equal =>
    have added : (taken early free artificials (freeArtificials + 1) (above ++
        ((front ++ (List.replicate free 0 ++ middle)) ++ 0 ::
          (List.replicate freeArtificials 0 ++ back)) :: below) basis).addArtificial
        above.length = _ := addArtificial_taken _ _ (by simp [front_eq, middle_eq]; omega)
    simp only [List.append_assoc] at added
    simp [addColumns, Relation.inequalityColumn?, Relation.artificialColumn?, Constraint.entry,
      Nat.add_comm 1, List.replicate_succ, added]

end Taken

end Allocation

namespace LinearProgram

/-! ## The cells of a row -/

variable {problem : LinearProgram α} {done todo : List (Constraint α × Nat)}
  {constraint : Constraint α} {row : Nat}

/-- A row has zeros in columns that are picked for other rows. -/
private theorem map_entry_filterMap {pick : Constraint α × Nat → Option Column}
    (zero : ∀ entry ∈ done, ∀ column ∈ pick entry, constraint.entry row column = 0) :
    (done.filterMap pick).map (constraint.entry row) =
      List.replicate (done.filterMap pick).length 0 := by
  refine List.map_eq_replicate_iff.2 fun column member => ?_
  obtain ⟨entry, entry_mem, picked⟩ := List.mem_filterMap.1 member
  exact zero entry entry_mem column picked

theorem map_entry_inequalitiesOf (others : ∀ entry ∈ done, entry.2 ≠ row) :
    (inequalitiesOf done).map (constraint.entry row) =
      List.replicate (inequalitiesOf done).length 0 :=
  map_entry_filterMap fun entry member _ => Constraint.entry_inequalityColumn (others entry member)

theorem map_entry_artificialsOf (others : ∀ entry ∈ done, entry.2 ≠ row) :
    (artificialsOf done).map (constraint.entry row) =
      List.replicate (artificialsOf done).length 0 :=
  map_entry_filterMap fun entry member _ => Constraint.entry_artificialColumn (others entry member)

theorem map_entry_decisionColumns
    (arity : constraint.coefficients.length = problem.numVariables) :
    problem.decisionColumns.map (constraint.entry row) = constraint.coefficients := by
  refine List.ext_getElem (by simp [decisionColumns, arity]) fun index inside inside' => ?_
  simp [decisionColumns, Constraint.entry, inside']

/-- A column stands behind those in front of it if no column appears twice. -/
theorem idxOf_of_split {front back : List Column} {column : Column}
    (columns : problem.standardColumns = front ++ column :: back) :
    problem.standardColumns.idxOf column = front.length := by
  have nodup := problem.nodup_standardColumns
  rw [columns, List.nodup_append] at nodup
  rw [columns, List.idxOf_append_of_notMem, List.idxOf_cons_self, Nat.add_zero]
  exact fun member => nodup.2.2 column member column List.mem_cons_self rfl

section Split

variable (split : problem.normalizedRows = done ++ (constraint, row) :: todo)

include split

/-- The numbers of all other rows are different. -/
theorem others_of_split : (∀ entry ∈ done, entry.2 ≠ row) ∧ ∀ entry ∈ todo, entry.2 ≠ row := by
  have apart := problem.pairwise_normalizedRows
  rw [split, List.pairwise_append, List.pairwise_cons] at apart
  exact ⟨fun entry member => apart.2.2 entry member _ List.mem_cons_self,
    fun entry member => (apart.2.1.1 entry member).symm⟩

theorem row_of_split : row = done.length + 1 := by
  have numbered := congrArg (·[done.length]?) split
  simp only [normalizedRows, List.getElem?_zipIdx, List.getElem?_append_right le_rfl, Nat.sub_self,
    List.getElem?_cons_zero, Option.map_eq_some_iff, Prod.mk.injEq] at numbered
  obtain ⟨_, -, -, same⟩ := numbered
  omega

theorem columns_of_split : problem.standardColumns = problem.decisionColumns ++
    (inequalitiesOf done ++ ((constraint.relation.inequalityColumn? row).toList ++
      inequalitiesOf todo)) ++
    (artificialsOf done ++ ((constraint.relation.artificialColumn? row).toList ++
      artificialsOf todo)) := by
  rw [← inequalitiesOf_cons, ← artificialsOf_cons, ← inequalitiesOf_append, ← artificialsOf_append,
    ← split]
  rfl

/-- The cells of a row: its coefficients, and zeros but for the columns that belong to it. -/
theorem cells_of_split (arity : constraint.coefficients.length = problem.numVariables) :
    constraint.cells row problem.standardColumns = constraint.coefficients ++
      (List.replicate (inequalitiesOf done).length 0 ++
        ((constraint.relation.inequalityColumn? row).toList.map (constraint.entry row) ++
          List.replicate (inequalitiesOf todo).length 0)) ++
      (List.replicate (artificialsOf done).length 0 ++
        ((constraint.relation.artificialColumn? row).toList.map (constraint.entry row) ++
          List.replicate (artificialsOf todo).length 0)) ++ [constraint.rhs] := by
  obtain ⟨before, behind⟩ := others_of_split split
  rw [Constraint.cells, columns_of_split split]
  simp only [List.map_append, map_entry_decisionColumns arity, map_entry_inequalitiesOf before,
    map_entry_inequalitiesOf behind, map_entry_artificialsOf before,
    map_entry_artificialsOf behind]

/-- The basic column of a row is the slack or the artificial column that it takes. -/
theorem idxOf_basicColumn_of_split :
    problem.standardColumns.idxOf (constraint.relation.basicColumn row) =
      if constraint.relation = .atMost then (problem.decisionColumns ++ inequalitiesOf done).length
      else (problem.decisionColumns ++ inequalitiesOf done ++
          (constraint.relation.inequalityColumn? row).toList).length +
        (inequalitiesOf todo).length + (artificialsOf done).length := by
  have columns := columns_of_split split
  cases relation : constraint.relation <;>
    simp only [relation, Relation.inequalityColumn?, Relation.artificialColumn?,
      Option.toList_some, Option.toList_none, List.singleton_append, List.nil_append] at columns
  · have place := idxOf_of_split (columns.trans (by simp : _ = (problem.decisionColumns ++
      inequalitiesOf done) ++ .slack row :: (inequalitiesOf todo ++
        (artificialsOf done ++ artificialsOf todo))))
    simpa [Relation.basicColumn] using place
  · have place := idxOf_of_split (columns.trans (by simp : _ = (problem.decisionColumns ++
      inequalitiesOf done ++ [.surplus row] ++ inequalitiesOf todo ++ artificialsOf done) ++
        .artificial row :: artificialsOf todo))
    simp [Relation.basicColumn, Relation.inequalityColumn?, place]
    omega
  · have place := idxOf_of_split (columns.trans (by simp : _ = (problem.decisionColumns ++
      inequalitiesOf done ++ inequalitiesOf todo ++ artificialsOf done) ++
        .artificial row :: artificialsOf todo))
    simp [Relation.basicColumn, Relation.inequalityColumn?, place]
    omega

end Split

/-! ## Filling the rows -/

/-- A row before it is filled. -/
def blankRow (problem : LinearProgram α) : Row α :=
  List.replicate (problem.standardColumns.length + 1) 0

/-- The rows that are done and the objective row above them. -/
def rowsOf (problem : LinearProgram α) (done : List (Constraint α × Nat)) : List (Row α) :=
  problem.blankRow :: done.map fun entry => entry.1.cells entry.2 problem.standardColumns

/-- What has been written when some rows are done and the others are left. -/
def reached (problem : LinearProgram α) (done todo : List (Constraint α × Nat)) : Allocation α :=
  .taken (problem.decisionColumns ++ inequalitiesOf done) (inequalitiesOf todo).length
    (artificialsOf done) (artificialsOf todo).length
    (problem.rowsOf done ++ todo.map fun _ => problem.blankRow)
    (done.map fun entry => problem.standardColumns.idxOf (entry.1.relation.basicColumn entry.2))

/-- A filled row takes the next columns, and its cells are those of the first tableau. -/
theorem addColumns_of_split (split : problem.normalizedRows = done ++ (constraint, row) :: todo)
    (arity : constraint.coefficients.length = problem.numVariables)
    (place : row = (problem.rowsOf done).length) :
    (Allocation.taken (problem.decisionColumns ++ inequalitiesOf done)
      (inequalitiesOf ((constraint, row) :: todo)).length (artificialsOf done)
      (artificialsOf ((constraint, row) :: todo)).length
      (problem.rowsOf done ++ (constraint.coefficients ++
        List.replicate ((inequalitiesOf done).length +
          (inequalitiesOf ((constraint, row) :: todo)).length + (artificialsOf done).length +
            (artificialsOf ((constraint, row) :: todo)).length) 0 ++ [constraint.rhs]) ::
        todo.map fun _ => problem.blankRow)
      (done.map fun entry => problem.standardColumns.idxOf
        (entry.1.relation.basicColumn entry.2))).addColumns row constraint.relation =
      .ok (problem.reached (done ++ [(constraint, row)]) todo) := by
  subst place
  have rows : problem.rowsOf (done ++ [(constraint, (problem.rowsOf done).length)]) =
      problem.rowsOf done ++
        [constraint.cells (problem.rowsOf done).length problem.standardColumns] := by
    simp [rowsOf]
  simp only [← List.replicate_append_replicate, ← List.append_assoc]
  rw [inequalitiesOf_cons, artificialsOf_cons, List.length_append, List.length_append,
    Allocation.addColumns_taken constraint rfl rfl _ _ _ (by simp [arity]) (by simp),
    reached, rows, cells_of_split split arity, List.map_append, List.map_cons, List.map_nil,
    idxOf_basicColumn_of_split split, inequalitiesOf_append, artificialsOf_append,
    inequalitiesOf_cons, artificialsOf_cons, inequalitiesOf_nil, artificialsOf_nil]
  simp only [List.append_assoc, List.append_nil, List.cons_append, List.nil_append]

/-- A row is filled in its place and takes the next columns, and no write fails. -/
theorem addRow_reached (split : problem.normalizedRows = done ++ (constraint, row) :: todo)
    (arity : constraint.coefficients.length = problem.numVariables) :
    (problem.reached done ((constraint, row) :: todo)).addRow problem.numVariables
      problem.standardColumns.length (constraint, row) =
      .ok (problem.reached (done ++ [(constraint, row)]) todo) := by
  have place : row = (problem.rowsOf done).length := by simp [rowsOf, row_of_split split]
  have width : problem.standardColumns.length = constraint.coefficients.length +
      ((inequalitiesOf done).length + (inequalitiesOf ((constraint, row) :: todo)).length +
        (artificialsOf done).length + (artificialsOf ((constraint, row) :: todo)).length) := by
    rw [columns_of_split split, inequalitiesOf_cons, artificialsOf_cons]
    simp [arity]
    omega
  have filled := fill_eq (problem.rowsOf done)
    (todo.map fun _ => problem.blankRow) constraint.coefficients ((inequalitiesOf done).length +
      (inequalitiesOf ((constraint, row) :: todo)).length + (artificialsOf done).length +
        (artificialsOf ((constraint, row) :: todo)).length) constraint.rhs
  rw [← width, ← place, arity] at filled
  change (_ >>= fun rows => _ >>= fun rows => _) = _
  rw [← bind_assoc]
  exact (congrArg (· >>= _) filled).trans (addColumns_of_split split arity place)

/-- Each row in turn takes its columns, until all of them have been taken. -/
theorem foldlM_reached (split : problem.normalizedRows = done ++ todo)
    (arity : ∀ entry ∈ todo, entry.1.coefficients.length = problem.numVariables) :
    todo.foldlM (Allocation.addRow problem.numVariables problem.standardColumns.length)
      (problem.reached done todo) = .ok (problem.reached problem.normalizedRows []) := by
  induction todo generalizing done with
  | nil => rw [split, List.append_nil, List.foldlM_nil, pure_eq_ok]
  | cons entry todo ih =>
    obtain ⟨head, tail⟩ := List.forall_mem_cons.1 arity
    rw [List.foldlM_cons, addRow_reached split head, ok_bind]
    exact ih (split.trans (List.append_cons done entry todo)) tail

/-! ## Counting and taking agree -/

@[simp] theorem inequalitiesOf_normalizedRows (problem : LinearProgram α) :
    inequalitiesOf problem.normalizedRows = problem.inequalityColumns := rfl

@[simp] theorem artificialsOf_normalizedRows (problem : LinearProgram α) :
    artificialsOf problem.normalizedRows = problem.artificialColumns := rfl

@[simp] theorem length_normalizedRows (problem : LinearProgram α) :
    problem.normalizedRows.length = problem.constraints.length := by
  simp [normalizedRows]

theorem numInequalities_eq (problem : LinearProgram α) :
    problem.numInequalities = problem.inequalityColumns.length := by
  refine (length_filterMap_zipIdx 1 fun entry => ?_).symm
  cases entry.1.relation <;> rfl

theorem numArtificials_eq (problem : LinearProgram α) :
    problem.numArtificials = problem.artificialColumns.length := by
  refine (length_filterMap_zipIdx 1 fun entry => ?_).symm
  cases entry.1.relation <;> rfl

theorem map_kind_artificialColumns (problem : LinearProgram α) :
    problem.artificialColumns.map Column.kind =
      List.replicate problem.artificialColumns.length .artificial := by
  refine List.map_eq_replicate_iff.2 fun column member => ?_
  obtain ⟨row, rfl⟩ := problem.mem_artificialColumns member
  rfl

/-- The columns of a well-formed problem are taken without a write that fails, and the tableau that
has been filled is the first one. The counters end where the next kind of columns begins. -/
theorem allocate_eq (wellFormed : problem.IsWellFormed) :
    problem.allocate = .ok {
      kinds := problem.standardColumns.map Column.kind
      names := problem.standardColumns.map Column.name
      rows := problem.standardTableau.rows
      basis := problem.standardTableau.basis
      nextInequality := (StandardForm.ofProblem problem).firstArtificial
      nextArtificial := problem.standardColumns.length } := by
  have width : problem.standardColumns.length =
      problem.numVariables + problem.numInequalities + problem.numArtificials := by
    simp [numInequalities_eq, numArtificials_eq, standardColumns, Nat.add_assoc]
  have arity : ∀ entry ∈ problem.normalizedRows,
      entry.1.coefficients.length = problem.numVariables := by
    intro entry member
    have listed := List.fst_mem_of_mem_zipIdx member
    obtain ⟨source, source_mem, same⟩ := List.mem_map.1 listed
    rw [← same, Constraint.length_normalized]
    exact (wellFormed.constraint source source_mem).length_eq
  have started : problem.reached [] problem.normalizedRows = {
      kinds := List.replicate problem.numVariables .decision ++
        List.replicate (problem.numInequalities + problem.numArtificials) .artificial
      names := problem.decisionColumns.map Column.name ++
        List.replicate (problem.numInequalities + problem.numArtificials) ""
      rows := List.replicate (problem.constraints.length + 1) problem.blankRow
      basis := []
      nextInequality := problem.numVariables
      nextArtificial := problem.numVariables + problem.numInequalities } := by
    simp [reached, Allocation.taken, rowsOf, List.replicate_succ, map_kind_decisionColumns,
      numInequalities_eq, numArtificials_eq]
  have finished : problem.reached problem.normalizedRows [] = {
      kinds := problem.standardColumns.map Column.kind
      names := problem.standardColumns.map Column.name
      rows := problem.standardTableau.rows
      basis := problem.standardTableau.basis
      nextInequality := (StandardForm.ofProblem problem).firstArtificial
      nextArtificial := problem.standardColumns.length } := by
    simp [reached, Allocation.taken, standardColumns, map_kind_artificialColumns, standardTableau,
      rowsOf, blankRow, StandardForm.ofProblem, Nat.add_assoc]
  have run := foldlM_reached (List.nil_append problem.normalizedRows).symm arity
  have behind : problem.standardColumns.length - problem.numVariables =
      problem.numInequalities + problem.numArtificials := by
    omega
  rw [started, finished] at run
  simp only [allocate, ← width, behind]
  exact run

end LinearProgram

end SimplexMethod

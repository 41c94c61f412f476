import SimplexMethod.Proofs.Announcement
import SimplexMethod.Proofs.StandardForm.Names
import SimplexMethod.Proofs.Tableau.Exchange

/-!
# Replaying announced pivots

The pivots that messages announce can be made again on a tableau. A message about a counted pivot
tells its cell; one about driving out tells the row and the name of a column, which is looked up.
Whether a pivot can be made, and what it makes of the constraints, does not depend on the objective
row. So a replay needs to know nothing of the objectives that entered between the pivots. Nothing
here depends on the kind of numbers.

## Main definitions

* `Tableau.columnNamed?`: the column of a name
* `Tableau.replay?`: the tableau after announced pivots
* `Tableau.SameConstraints`: two tableaux differ in the objective row at most
* `Tableau.Replays`: announced pivots lead from one tableau to another, up to the objective row

## Main results

* `Tableau.columnNamed?_columnName`: columns that differ are found by their names
* `Tableau.SameConstraints.pivot`: a pivot can be made on both of two such tableaux
-/

namespace SimplexMethod

variable {α : Type}

/-! ## Columns by name -/

theorem Column.blank_notMem_name (column : Column) : ' ' ∉ column.name.toList := by
  have number (n : Nat) : ' ' ∉ Nat.toDigits 10 n := fun member =>
    absurd (Nat.isDigit_of_mem_toDigits (by decide) (by decide) member) (by decide)
  cases column <;> simp [name, number]

namespace Tableau

theorem blank_notMem_columnName (tableau : Tableau α) (col : Nat) :
    ' ' ∉ (tableau.columnName col).toList := by
  rw [columnName, columnName?]
  cases tableau.columns[col]? with
  | none => simp
  | some column => exact column.blank_notMem_name

/-- The only column of the given name. -/
def columnNamed? (tableau : Tableau α) (name : String) : Option Nat :=
  match (List.range tableau.numColumns).filter (tableau.columnName? · == some name) with
  | [col] => some col
  | _ => none

/-- Columns that differ are found by their names. -/
theorem columnNamed?_columnName {tableau : Tableau α} (distinct : tableau.columns.Nodup) {col : Nat}
    (inside : col < tableau.numColumns) :
    tableau.columnNamed? (tableau.columnName col) = some col := by
  have only : (List.range tableau.numColumns).filter
      (tableau.columnName? · == some (tableau.columnName col)) = [col] := by
    have hits : ∀ i ∈ List.range tableau.numColumns,
        (tableau.columnName? i == some (tableau.columnName col)) = (i == col) := by
      intro i member
      have inside' : i < tableau.numColumns := List.mem_range.1 member
      rw [Bool.eq_iff_iff, beq_iff_eq, beq_iff_eq]
      unfold numColumns at inside inside'
      simp only [columnName, columnName?, List.getElem?_eq_getElem inside,
        List.getElem?_eq_getElem inside', Option.map_some, Option.getD_some, Option.some.injEq,
        Column.name_injective.eq_iff, distinct.getElem_inj_iff]
    rw [List.filter_congr hits, List.filter_beq,
      List.nodup_range.count, if_pos (List.mem_range.2 inside), List.replicate_one]
  rw [columnNamed?, only]

/-! ## Tableaux with the same constraints -/

/-- Two tableaux differ in the objective row at most. -/
structure SameConstraints (first second : Tableau α) : Prop where
  columns_eq : second.columns = first.columns
  basis_eq : second.basis = first.basis
  constraintRows_eq : second.constraintRows = first.constraintRows

/-- The cell of an announced pivot. -/
def place? (tableau : Tableau α) : Announcement → Option (Nat × Nat)
  | .counted _ row col => some (row, col)
  | .drivenOut row replacement => (tableau.columnNamed? replacement).map (row, ·)

theorem getD_rows_succ (tableau : Tableau α) (index : Nat) :
    tableau.rows.getD (index + 1) [] = tableau.constraintRows.getD index [] := by
  rw [constraintRows, List.getD_eq_getElem?_getD, List.getD_eq_getElem?_getD, List.getElem?_tail]

namespace SameConstraints

variable {first second third : Tableau α}

theorem refl (tableau : Tableau α) : tableau.SameConstraints tableau := ⟨rfl, rfl, rfl⟩

theorem symm (same : first.SameConstraints second) : second.SameConstraints first :=
  ⟨same.columns_eq.symm, same.basis_eq.symm, same.constraintRows_eq.symm⟩

theorem trans (left : first.SameConstraints second) (right : second.SameConstraints third) :
    first.SameConstraints third :=
  ⟨right.columns_eq.trans left.columns_eq, right.basis_eq.trans left.basis_eq,
    right.constraintRows_eq.trans left.constraintRows_eq⟩

theorem place?_eq (same : first.SameConstraints second) (announced : Announcement) :
    second.place? announced = first.place? announced := by
  cases announced with
  | counted => rfl
  | drivenOut row replacement =>
    simp only [place?, columnNamed?, columnName?, numColumns, same.columns_eq]

end SameConstraints

variable [Scalar α]

/-- What a pivot makes of the constraint rows does not depend on the objective row. -/
theorem tail_pivotedRows (rows : List (Row α)) (index col : Nat) :
    (pivotedRows rows (index + 1) col).tail = pivotedRows rows.tail index col := by
  cases rows <;> simp [pivotedRows]

namespace SameConstraints

variable {first second : Tableau α} {tolerance : α}

theorem withObjective (tableau : Tableau α) (costs : List α) :
    tableau.SameConstraints (tableau.withObjective costs) :=
  ⟨rfl, rfl, rfl⟩

/-- A pivot can be made on both of two tableaux with the same constraints, and leaves the same
constraints behind. -/
theorem pivot (same : first.SameConstraints second) {row col : Nat} {next : Tableau α}
    (made : first.pivot row col tolerance = .ok next) :
    ∃ next', second.pivot row col tolerance = .ok next' ∧ next.SameConstraints next' := by
  obtain ⟨positive, row_lt, col_lt, usable, rfl⟩ := pivot_eq_ok_iff_isUsablePivot.1 made
  obtain ⟨index, rfl⟩ := Nat.exists_eq_add_one.2 positive
  have columns : second.numColumns = first.numColumns := congrArg List.length same.columns_eq
  have rows : second.numRows = first.numRows := by
    rw [numRows_eq, numRows_eq, numConstraints, numConstraints, same.basis_eq]
  have cell : second.cell (index + 1) col = first.cell (index + 1) col := by
    rw [Tableau.cell, Tableau.cell, getD_rows_succ, getD_rows_succ, same.constraintRows_eq]
  refine ⟨_, pivot_eq_ok_iff_isUsablePivot.2 ⟨positive, rows ▸ row_lt, columns ▸ col_lt,
    cell ▸ usable, rfl⟩, same.columns_eq, ?_, ?_⟩
  · exact congrArg (List.set · index col) same.basis_eq
  · change (pivotedRows second.rows _ col).tail = (pivotedRows first.rows _ col).tail
    rw [tail_pivotedRows, tail_pivotedRows]
    exact congrArg (pivotedRows · index col) same.constraintRows_eq

end SameConstraints

/-! ## Replays -/

/-- The tableau after an announced pivot, if it can be made. -/
def replayOne? (tolerance : α) (tableau : Tableau α) (announced : Announcement) :
    Option (Tableau α) :=
  (tableau.place? announced).bind fun place =>
    (tableau.pivot place.1 place.2 tolerance).toOption

/-- The tableau after announced pivots, if all of them can be made. -/
def replay? (tolerance : α) (tableau : Tableau α) (announced : List Announcement) :
    Option (Tableau α) :=
  announced.foldlM (replayOne? tolerance) tableau

/-- Every tableau with the constraints of `before` is led to one with the constraints of `after` by
the announced pivots. -/
def Replays (tolerance : α) (announced : List Announcement) (before after : Tableau α) : Prop :=
  ∀ ⦃copy : Tableau α⦄, before.SameConstraints copy →
    ∃ replayed, copy.replay? tolerance announced = some replayed ∧ after.SameConstraints replayed

namespace Replays

variable {tolerance : α} {first second third : Tableau α} {early late : List Announcement}

theorem nil (same : second.SameConstraints first) : Replays tolerance [] first second :=
  fun copy same' => ⟨copy, rfl, same.trans same'⟩

theorem append (left : Replays tolerance early first second)
    (right : Replays tolerance late second third) :
    Replays tolerance (early ++ late) first third := by
  intro copy same
  obtain ⟨between, replayed, same'⟩ := left same
  obtain ⟨last, replayed', same''⟩ := right same'
  refine ⟨last, ?_, same''⟩
  rw [replay?] at replayed replayed' ⊢
  rw [List.foldlM_append, replayed]
  exact replayed'

/-- An announced pivot that is made can be made again. -/
theorem pivot {announced : Announcement} {row col : Nat}
    (place : first.place? announced = some (row, col))
    (made : first.pivot row col tolerance = .ok second) :
    Replays tolerance [announced] first second := by
  intro copy same
  obtain ⟨next, made', same'⟩ := same.pivot made
  refine ⟨next, ?_, same'⟩
  simp [replay?, replayOne?, same.place?_eq, place, made', Except.toOption]

end Replays

end Tableau

end SimplexMethod

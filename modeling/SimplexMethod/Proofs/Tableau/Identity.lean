import SimplexMethod.Proofs.Tableau.Reach

/-!
# The identity of the basic columns under rounding

Whatever numbers a tableau is made of, each of its basic columns reads one in its own row and zero
in every other row. This survives rounding, because a pivot writes the one and the zeros of its own
column outright, and in the other basic columns the pivot row has a zero, of which no multiple
changes anything. It needs that the cells are finite. A number that is not finite never becomes
finite again where it matters, so the cells of the tableau at hand decide, and not those on the way
to it.

## Main definitions

* `Tableau.IsFinite`: all cells are finite
* `Tableau.ReadsIdentity`: a row reads one in its own basic column and zero in the others
* `Tableau.KeepsIdentity`: every row of finite cells does so

## Main results

* `Tableau.Reaches.keepsIdentity`: pivots and new objectives keep the identity
* `Tableau.nodup_basis_of_readsIdentity`, `Tableau.basisIsIdentity_of_readsIdentity`,
  `Tableau.basicColumn?_eq_some_iff_basicRow?`, `Tableau.countP_basic_catalogue`: what the identity
  says about the basis
-/

namespace SimplexMethod

variable {α : Type} [Scalar α]

/-! ## Tableaux -/

namespace Tableau

/-- All cells of the tableau are finite. -/
def IsFinite (tableau : Tableau α) : Prop := ∀ cells ∈ tableau.rows, Row.IsFinite cells

instance (tableau : Tableau α) : Decidable tableau.IsFinite :=
  inferInstanceAs (Decidable (∀ _ ∈ tableau.rows, _))

/-- Row `i` reads one in its own basic column, and zero, of either sign, in the basic columns of the
other rows. The objective row has no basic column of its own. -/
def ReadsIdentity (tableau : Tableau α) (i : Nat) : Prop :=
  ∀ row ∈ tableau.constraintIndices,
    if i = row then tableau.cell i (tableau.basicColumn row) = 1
    else tableau.cell i (tableau.basicColumn row) == 0

/-- If the constraint rows are finite, every finite row reads the identity. -/
def KeepsIdentity (tableau : Tableau α) : Prop :=
  (∀ row ∈ tableau.constraintIndices, (tableau.rows.getD row []).IsFinite) →
    ∀ i < tableau.numRows, (tableau.rows.getD i []).IsFinite → tableau.ReadsIdentity i

variable {tableau after : Tableau α} {row col i : Nat}

theorem KeepsIdentity.readsIdentity (keeps : tableau.KeepsIdentity) (finite : tableau.IsFinite)
    (inside : i < tableau.numRows) : tableau.ReadsIdentity i := by
  have rows {i : Nat} (inside : i < tableau.numRows) : (tableau.rows.getD i []).IsFinite := by
    rw [List.getD_eq_getElem _ _ inside]
    exact finite _ (List.getElem_mem inside)
  exact keeps (fun row row_mem => rows (lt_numRows_of_mem row_mem)) i inside (rows inside)

variable [LawfulZero α]

/-! ## Pivots -/

section Pivoted

variable (row_lt : row < tableau.numRows) (col_lt : col < tableau.numColumns)

/-- A row that is finite after a pivot was finite before. -/
private theorem isFinite_of_pivoted (inside : i < tableau.numRows)
    (pivot_finite : Scalar.isFinite (tableau.cell row col))
    (finite : ((tableau.pivoted row col row_lt col_lt).rows.getD i []).IsFinite) :
    (tableau.rows.getD i []).IsFinite := by
  have width := tableau.length_row inside
  by_cases own : i = row
  · subst i
    rw [pivoted, getD_pivotedRows_self row_lt] at finite
    exact Row.isFinite_of_normalize pivot_finite finite
  · rw [pivoted, getD_pivotedRows_of_ne inside own] at finite
    -- The right-hand side is a cell that the pivot does not overwrite.
    have rhs_lt : tableau.rhsIndex < (tableau.rows.getD i []).length := width ▸ Nat.lt_succ_self _
    refine Row.isFinite_of_clear ?_ rhs_lt col_lt.ne' finite
    rw [Row.length_normalize, tableau.length_row row_lt, width]

/-- The new basic column is written outright. -/
private theorem cell_pivoted_self (inside : i < tableau.numRows) :
    if i = row then (tableau.pivoted row col row_lt col_lt).cell i col = 1
    else (tableau.pivoted row col row_lt col_lt).cell i col == 0 := by
  have col_inside : col < (tableau.rows.getD i []).length :=
    tableau.length_row inside ▸ Nat.lt_succ_of_lt col_lt
  rw [cell, pivoted]
  split
  · subst i
    rw [getD_pivotedRows_self row_lt, Row.cell_normalize_self col_inside]
  · rename_i other
    rw [getD_pivotedRows_of_ne inside other]
    exact Row.cell_clear_self_beq_zero col_inside

include row_lt in
/-- The pivot row has a zero in the basic column of any other row, also when it has been divided. -/
private theorem ReadsIdentity.normalize (pivot_row : tableau.ReadsIdentity row)
    (pivot_finite : Scalar.isFinite (tableau.cell row col))
    (nonzero : (tableau.cell row col == 0) = false) {r : Nat}
    (r_mem : r ∈ tableau.constraintIndices) (other : r ≠ row) : tableau.basicColumn r ≠ col ∧
      ((tableau.rows.getD row []).normalize col).cell (tableau.basicColumn r) == 0 := by
  have zero := pivot_row r r_mem
  rw [if_neg (Ne.symm other)] at zero
  have different : tableau.basicColumn r ≠ col := fun same =>
    Bool.eq_false_iff.1 nonzero (same ▸ zero)
  refine ⟨different, ?_⟩
  have column_lt := Nat.lt_succ_of_lt (basicColumn_lt r_mem)
  rw [Row.cell_normalize_of_ne (tableau.length_row row_lt ▸ column_lt) different]
  exact LawfulZero.zero_div zero pivot_finite nonzero

/-- A pivot keeps the identity in every row, if the pivot row has it too. -/
private theorem ReadsIdentity.pivoted (positive : 0 < row)
    (pivot_finite : Scalar.isFinite (tableau.cell row col))
    (nonzero : (tableau.cell row col == 0) = false) (pivot_row : tableau.ReadsIdentity row)
    (inside : i < tableau.numRows) (finite : (tableau.rows.getD i []).IsFinite)
    (old : tableau.ReadsIdentity i) :
    (tableau.pivoted row col row_lt col_lt).ReadsIdentity i := by
  intro r r_mem
  rw [constraintIndices_pivoted] at r_mem
  rw [basicColumn_pivoted row_lt col_lt positive]
  by_cases fresh : r = row
  · rw [if_pos fresh, fresh]
    exact cell_pivoted_self row_lt col_lt inside
  · obtain ⟨different, zero⟩ := pivot_row.normalize row_lt pivot_finite nonzero r_mem fresh
    rw [if_neg fresh, cell, Tableau.pivoted]
    by_cases own : i = row
    · subst i
      rw [if_neg (Ne.symm fresh), getD_pivotedRows_self row_lt]
      exact zero
    · -- What the row gives up has a zero where it reads the identity.
      rw [getD_pivotedRows_of_ne inside own]
      have width := tableau.length_row inside
      have same : ((tableau.rows.getD row []).normalize col).length =
          (tableau.rows.getD i []).length := by
        rw [Row.length_normalize, tableau.length_row row_lt, width]
      have cell_inside {c : Nat} (c_lt : c < tableau.numColumns) :
          c < (tableau.rows.getD i []).length := width ▸ Nat.lt_succ_of_lt c_lt
      have col_inside := cell_inside col_lt
      have column_inside := cell_inside (basicColumn_lt r_mem)
      have value := old r r_mem
      split at value
      · rename_i reads_one
        rw [if_pos reads_one]
        exact Row.cell_clear_eq_one same finite col_inside column_inside different zero value
      · rename_i reads_zero
        rw [if_neg reads_zero]
        exact Row.cell_clear_beq_zero same finite col_inside column_inside zero value

end Pivoted

/-- A pivot keeps the identity. -/
theorem KeepsIdentity.pivot {tolerance : α} (keeps : tableau.KeepsIdentity)
    (nonnegative : 0 ≤ tolerance) (made : tableau.pivot row col tolerance = .ok after) :
    after.KeepsIdentity := by
  obtain ⟨positive, row_lt, col_lt, usable, rfl⟩ := pivot_eq_ok_iff_isUsablePivot.1 made
  obtain ⟨large, pivot_finite⟩ : isZero (tableau.cell row col) tolerance = false ∧
      Scalar.isFinite (tableau.cell row col) := by simpa [isUsablePivot] using usable
  have nonzero : (tableau.cell row col == 0) = false := Bool.eq_false_iff.2 fun zero =>
    Bool.eq_false_iff.1 large (decide_eq_true (LawfulZero.abs_le zero nonnegative))
  intro constraints i inside finite
  rw [numRows, Tableau.pivoted, length_pivotedRows] at inside
  rw [constraintIndices_pivoted] at constraints
  -- What is finite now was finite before, so the identity was there before.
  have before (r : Nat) (r_mem : r ∈ tableau.constraintIndices) :
      (tableau.rows.getD r []).IsFinite :=
    isFinite_of_pivoted row_lt col_lt (lt_numRows_of_mem r_mem) pivot_finite (constraints r r_mem)
  have row_mem := mem_constraintIndices_iff_lt_numRows.2 ⟨positive, row_lt⟩
  have old := isFinite_of_pivoted row_lt col_lt inside pivot_finite finite
  exact .pivoted row_lt col_lt positive pivot_finite nonzero
    (keeps before row row_lt (before row row_mem)) inside old (keeps before i inside old)

/-! ## New objectives -/

/-- A new objective keeps the identity. -/
theorem KeepsIdentity.withObjective (keeps : tableau.KeepsIdentity) (costs : List α) :
    (tableau.withObjective costs).KeepsIdentity := by
  intro constraints i inside finite
  have row_ne_zero {r : Nat} (r_mem : r ∈ tableau.constraintIndices) : r ≠ 0 :=
    Nat.one_le_iff_ne_zero.1 (tableau.mem_constraintIndices.1 r_mem).1
  have before (r : Nat) (r_mem : r ∈ tableau.constraintIndices) :
      (tableau.rows.getD r []).IsFinite := by
    rw [← getD_rows_withObjective (row_ne_zero r_mem)]
    exact constraints r r_mem
  have old {r : Nat} (r_mem : r ∈ tableau.constraintIndices) : tableau.ReadsIdentity r :=
    keeps before r (lt_numRows_of_mem r_mem) (before r r_mem)
  intro row row_mem
  rw [constraintIndices_withObjective] at row_mem
  rw [basicColumn_withObjective]
  by_cases objective : i = 0
  · subst i
    rw [if_neg (row_ne_zero row_mem).symm]
    refine cell_zero_withObjective_beq_zero row_mem (fun other other_mem different => ?_) finite
    have zero := old other_mem row row_mem
    rwa [if_neg different] at zero
  · have i_mem : i ∈ (tableau.withObjective costs).constraintIndices :=
      mem_constraintIndices_iff_lt_numRows.2 ⟨Nat.pos_of_ne_zero objective, inside⟩
    rw [cell_withObjective objective]
    exact old i_mem row row_mem

/-! ## Tableaux that are reached -/

/-- From a tableau that keeps the identity, pivots and new objectives lead to tableaux that keep
it. -/
theorem Reaches.keepsIdentity {first : Tableau α} {costs : List α}
    (reached : first.Reaches tableau costs) (start : first.KeepsIdentity) :
    tableau.KeepsIdentity := by
  induction reached with
  | refl => exact start
  | pivot row col tolerance _ nonnegative made ih => exact ih.pivot nonnegative made
  | install new _ _ ih => exact ih.withObjective new

/-! ## What the identity says about the basis -/

/-- No column is basic in two rows. -/
theorem nodup_basis_of_readsIdentity (identity : ∀ i < tableau.numRows, tableau.ReadsIdentity i) :
    tableau.basis.Nodup := by
  apply nodup_basis_of_injOn
  intro i i_mem j j_mem same
  by_contra different
  have reads := identity i (lt_numRows_of_mem i_mem)
  have own := reads i i_mem
  have other := reads j j_mem
  rw [if_pos rfl] at own
  rw [if_neg different, ← same, own] at other
  exact Bool.eq_false_iff.1 LawfulZero.one_beq_zero other

/-- The basis is an identity for the least tolerance there is. -/
theorem basisIsIdentity_of_readsIdentity
    (identity : ∀ i < tableau.numRows, tableau.ReadsIdentity i) :
    tableau.basisIsIdentity 0 = true := by
  rw [basisIsIdentity, List.all_eq_true]
  rintro ⟨col, row⟩ basic
  rw [List.all_eq_true]
  rintro ⟨cells, i⟩ entry
  obtain ⟨positive, at_row⟩ := List.mk_mem_zipIdx_iff_le_and_getElem?_sub.1 basic
  obtain ⟨index, rfl⟩ := Nat.exists_eq_add_of_le' positive
  have column : tableau.basicColumn? (index + 1) = some col := at_row
  obtain ⟨row_mem, rfl⟩ := basicColumn?_eq_some_iff.1 column
  have at_i : tableau.rows[i]? = some cells := List.mem_zipIdx_iff_getElem?.1 entry
  obtain ⟨inside, rfl⟩ := List.getElem?_eq_some_iff.1 at_i
  -- The difference from the cell of an identity is a zero, the least magnitude there is.
  refine decide_eq_true (LawfulZero.abs_le ?_ LawfulZero.zero_le_zero)
  have value := identity i inside _ row_mem
  rw [cell, List.getD_eq_getElem _ _ inside] at value
  dsimp only
  split at value
  · rename_i own
    rw [value, identityCell, own, beq_self_eq_true, if_pos rfl]
    exact LawfulZero.one_sub_one
  · rename_i other
    rw [identityCell, beq_false_of_ne other, if_neg Bool.false_ne_true]
    exact LawfulZero.zero_sub value LawfulZero.zero_beq_zero

omit [LawfulZero α] [Scalar α] in
/-- Which column is basic in a row and in which row a column is basic are inverse to each other. -/
theorem basicColumn?_eq_some_iff_basicRow? (nodup : tableau.basis.Nodup) :
    tableau.basicColumn? row = some col ↔ tableau.basicRow? col = some row := by
  rw [basicRow?, Option.map_eq_some_iff]
  constructor
  · intro basic
    cases row with
    | zero => cases basic
    | succ index =>
      obtain ⟨inside, at_index⟩ := List.getElem?_eq_some_iff.1 basic
      refine ⟨index, List.findIdx?_eq_some_iff_getElem.2 ⟨inside, beq_iff_eq.2 at_index, ?_⟩, rfl⟩
      intro j less found
      exact less.ne (nodup.getElem_inj_iff.1 ((beq_iff_eq.1 found).trans at_index.symm))
  · rintro ⟨index, found, rfl⟩
    obtain ⟨inside, hit, -⟩ := List.findIdx?_eq_some_iff_getElem.1 found
    exact List.getElem?_eq_some_iff.2 ⟨inside, beq_iff_eq.1 hit⟩

omit [LawfulZero α] [Scalar α] in
/-- As many columns of the catalogue are marked as basic as there are constraint rows. -/
theorem countP_basic_catalogue (nodup : tableau.basis.Nodup) :
    tableau.catalogue.countP (·.basic) = tableau.numConstraints := by
  have basic : ((List.range tableau.numColumns).filter tableau.isBasic).Perm tableau.basis := by
    refine (List.perm_ext_iff_of_nodup (List.nodup_range.filter _) nodup).2 fun col => ?_
    rw [List.mem_filter, List.mem_range, isBasic, List.contains_iff_mem]
    exact and_iff_right_of_imp (tableau.lt_of_mem_basis col)
  have indices : tableau.columns.zipIdx.map Prod.snd = List.range tableau.numColumns := by
    rw [List.zipIdx_map_snd, List.range_eq_range', numColumns]
  rw [numConstraints, ← basic.length_eq, ← List.countP_eq_length_filter, ← indices, catalogue,
    List.countP_map, List.countP_map]
  rfl

end Tableau

end SimplexMethod

import SimplexMethod.Proofs.Tableau.Ray

/-!
# Tableaux with the same basis

Tableaux of the same system that have the same basic columns have the same rows, up to their order.
A solution is determined by its values outside of the basis, so the rays of both tableaux are the
same, and all cells are read off the rays.

## Main results

* `Tableau.Solves.eq_zero`: a solution is determined by its values outside of the basis
* `Tableau.cell_eq_of_basis_eq`, `Tableau.cell_zero_eq_of_basis_eq`: the basis determines the row of
  each basic column and the objective row
-/

namespace SimplexMethod

namespace Tableau

variable {first second : Tableau Rat}

/-- A solution that is zero outside of the basis is zero. -/
theorem Solves.eq_zero (canonical : first.IsCanonical) {v : Nat → Rat} (solves : first.Solves v)
    (zero : ∀ col ≤ first.numColumns, first.IsNonbasic col → v col = 0) {col : Nat}
    (inside : col ≤ first.numColumns) : v col = 0 := by
  rcases first.isNonbasic_or_basic col with nonbasic | ⟨row, row_mem, rfl⟩
  · exact zero col inside nonbasic
  · -- The row of a basic column has a one there, and zeros in all other basic columns.
    have only : first.dot row v = v (first.basicColumn row) := by
      rw [dot, Finset.sum_eq_single_of_mem _ (Finset.mem_range_succ_iff.2 inside)]
      · rw [canonical row row_mem, if_pos rfl, one_mul]
      · intro other member different
        rcases first.isNonbasic_or_basic other with nonbasic | ⟨i, i_mem, rfl⟩
        · rw [zero other (Finset.mem_range_succ_iff.1 member) nonbasic, mul_zero]
        · have apart : row ≠ i := fun same => different (same ▸ rfl)
          rw [canonical i i_mem, if_neg apart, zero_mul]
    rw [← only]
    exact solves row row_mem

/-- The basis determines the ray of a column that is not basic. -/
theorem ray_eq_of_basis_eq (same : first.SameSystem second) (canonical : first.IsCanonical)
    (canonical' : second.IsCanonical) (basis : ∀ j, j ∈ first.basis ↔ j ∈ second.basis)
    {col : Nat} (nonbasic : first.IsNonbasic col) (bounded : col ≤ first.numColumns) {j : Nat}
    (inside : j ≤ first.numColumns) : first.ray col j = second.ray col j := by
  have nonbasic_iff (j : Nat) : first.IsNonbasic j ↔ second.IsNonbasic j := by
    rw [isNonbasic_iff, isNonbasic_iff, basis]
  -- The difference of the two rays solves both systems and is zero outside of the basis.
  have solves : first.Solves fun j => first.ray col j - second.ray col j := by
    intro row row_mem
    have other := (same.solves_iff _).2 (solves_ray canonical' (same.numColumns_eq ▸ bounded))
    rw [dot_sub, solves_ray canonical bounded row row_mem, other row row_mem, sub_zero]
  refine sub_eq_zero.1 (solves.eq_zero canonical (fun i _ i_nonbasic => ?_) inside)
  by_cases own : i = col
  · rw [own, ray_self nonbasic, ray_self ((nonbasic_iff col).1 nonbasic), sub_self]
  · rw [ray_of_isNonbasic own i_nonbasic, ray_of_isNonbasic own ((nonbasic_iff i).1 i_nonbasic),
      sub_self]

/-- The basis determines the constraint row of each basic column. -/
theorem cell_eq_of_basis_eq (same : first.SameSystem second) (canonical : first.IsCanonical)
    (canonical' : second.IsCanonical) (basis : ∀ j, j ∈ first.basis ↔ j ∈ second.basis)
    {row other : Nat} (row_mem : row ∈ first.constraintIndices)
    (other_mem : other ∈ second.constraintIndices)
    (column : second.basicColumn other = first.basicColumn row) {col : Nat}
    (inside : col ≤ first.numColumns) : first.cell row col = second.cell other col := by
  rcases first.isNonbasic_or_basic col with nonbasic | ⟨i, i_mem, rfl⟩
  · have nonbasic' : second.IsNonbasic col := isNonbasic_iff.2
      (mt (basis col).2 (isNonbasic_iff.1 nonbasic))
    have bounded : first.basicColumn row ≤ first.numColumns := (basicColumn_lt row_mem).le
    have rays := ray_eq_of_basis_eq same canonical canonical' basis nonbasic inside bounded
    rw [ray_basicColumn canonical nonbasic row_mem, ← column,
      ray_basicColumn canonical' nonbasic' other_mem] at rays
    exact neg_inj.1 rays
  · -- The column is basic in some row of either tableau, and both rows are meant or neither is.
    obtain ⟨j, j_mem, j_column⟩ := mem_basis_iff.1 ((basis _).1 (basicColumn_mem_basis i_mem))
    have own : row = i ↔ other = j := by
      constructor
      · rintro rfl
        exact canonical'.eq_of_basicColumn_eq other_mem j_mem (column.trans j_column.symm)
      · rintro rfl
        exact canonical.eq_of_basicColumn_eq row_mem i_mem (column.symm.trans j_column)
    rw [canonical i i_mem, ← j_column, canonical' j j_mem]
    simp only [own]

/-- The basis determines the objective row. -/
theorem cell_zero_eq_of_basis_eq {costs : List Rat} (same : first.SameSystem second)
    (canonical : first.IsCanonical) (canonical' : second.IsCanonical) (prices : first.Prices costs)
    (prices' : second.Prices costs) (fits : costs.length ≤ first.numColumns)
    (basis : ∀ j, j ∈ first.basis ↔ j ∈ second.basis) {col : Nat}
    (inside : col ≤ first.numColumns) : first.cell 0 col = second.cell 0 col := by
  rcases first.isNonbasic_or_basic col with nonbasic | ⟨row, row_mem, rfl⟩
  · have rays : Row.dot costs (first.ray col) = Row.dot costs (second.ray col) :=
      Row.dot_congr fun j less => ray_eq_of_basis_eq same canonical canonical' basis nonbasic
        inside (less.le.trans fits)
    rw [prices.cell_eq_neg_dot canonical inside, rays,
      prices'.cell_eq_neg_dot canonical' (inside.trans_eq same.numColumns_eq)]
  · obtain ⟨other, other_mem, column⟩ :=
      mem_basis_iff.1 ((basis _).1 (basicColumn_mem_basis row_mem))
    have positive := (first.mem_constraintIndices.1 row_mem).1
    have positive' := (second.mem_constraintIndices.1 other_mem).1
    rw [canonical row row_mem, if_neg (by omega), ← column, canonical' other other_mem,
      if_neg (by omega)]

/-- The basis determines the value of the objective. -/
theorem objectiveValue_eq_of_basis_eq {costs : List Rat} (same : first.SameSystem second)
    (canonical : first.IsCanonical) (canonical' : second.IsCanonical) (prices : first.Prices costs)
    (prices' : second.Prices costs) (fits : costs.length ≤ first.numColumns)
    (basis : ∀ j, j ∈ first.basis ↔ j ∈ second.basis) :
    first.objectiveValue = second.objectiveValue := by
  have width : second.rhsIndex = first.rhsIndex := same.numColumns_eq.symm
  have inside : first.rhsIndex ≤ first.numColumns := le_rfl
  rw [objectiveValue_eq, objectiveValue_eq, width]
  exact cell_zero_eq_of_basis_eq same canonical canonical' prices prices' fits basis inside

end Tableau

end SimplexMethod

import SimplexMethod.Proofs.Tableau.Exchange
import SimplexMethod.RatioTest

/-!
# Which row leaves

The rows that limit a column are the constraint rows with a cell above the tolerance. Among these
the ratio test keeps the best one so far, and it takes ratios for equal that differ by no more than
the tolerance. If all differences it meets are zero or above the tolerance, the row it ends with has
the least ratio, and the first basic column among the rows with this ratio.

## Main definitions

* `ratioDifferences`: the differences that the scan compares with the tolerance
* `Tableau.ratio`: how far a row lets a column grow

## Main results

* `Tableau.leavingRow_eq_none_iff`: when no row leaves
* `Tableau.ratio_le_of_leavingRow`: the leaving row comes first by ratio and basic column
-/

namespace SimplexMethod

/-- The differences of ratios that a scan of `rows` compares with the tolerance, when `best` is the
best row before them. -/
def ratioDifferences {α : Type} [Scalar α] (tolerance : α) :
    Option (LimitingRow α) → List (LimitingRow α) → List α
  | _, [] => []
  | none, challenger :: rows => ratioDifferences tolerance (some challenger) rows
  | some best, challenger :: rows =>
    (challenger.ratio - best.ratio) ::
      ratioDifferences tolerance (keepTightest tolerance (some best) challenger) rows

/-! ## The scan -/

namespace LimitingRow

/-- A row comes before another one by its ratio, and by its basic column if the ratios are equal. -/
def Precedes (first second : LimitingRow Rat) : Prop :=
  first.ratio < second.ratio ∨ first.ratio = second.ratio ∧ first.basic ≤ second.basic

theorem Precedes.refl (row : LimitingRow Rat) : row.Precedes row := .inr ⟨rfl, le_rfl⟩

theorem Precedes.trans {first second third : LimitingRow Rat} (left : first.Precedes second)
    (right : second.Precedes third) : first.Precedes third := by
  rcases left with less | ⟨same, before⟩ <;> rcases right with less' | ⟨same', before'⟩
  · exact .inl (less.trans less')
  · exact .inl (same' ▸ less)
  · exact .inl (same.symm ▸ less')
  · exact .inr ⟨same.trans same', before.trans before'⟩

/-- Between two rows with a separated difference of ratios the scan keeps the one that comes
first. -/
theorem precedes_of_beats {tolerance : Rat} (nonnegative : 0 ≤ tolerance)
    {challenger best : LimitingRow Rat}
    (separated : IsSeparated tolerance (challenger.ratio - best.ratio)) :
    if challenger.beats best tolerance then challenger.Precedes best
    else best.Precedes challenger := by
  unfold beats
  -- If the difference is separated, ratios that are taken for equal are equal.
  by_cases tie : isZero (challenger.ratio - best.ratio) tolerance = true
  · have same : challenger.ratio = best.ratio :=
      sub_eq_zero.1 (separated.eq_zero ((isZero_iff _ _).1 tie))
    rw [if_pos tie]
    split
    · rename_i before
      exact .inr ⟨same, (of_decide_eq_true before).le⟩
    · rename_i after
      exact .inr ⟨same.symm, by simpa using after⟩
  · have different : challenger.ratio ≠ best.ratio := by
      rintro same
      rw [isZero_iff, same, sub_self, abs_zero] at tie
      exact tie nonnegative
    rw [if_neg tie]
    split
    · rename_i less
      exact .inl (of_decide_eq_true less)
    · rename_i more
      exact .inl (lt_of_le_of_ne (by simpa using more) different.symm)

end LimitingRow

section Scan

variable {α : Type} [Scalar α]

/-- A scan that has a best row ends with it or with one of the rows it sees. -/
theorem exists_foldl_keepTightest (tolerance : α) (rows : List (LimitingRow α))
    (start : LimitingRow α) :
    ∃ tightest, rows.foldl (keepTightest tolerance) (some start) = some tightest ∧
      (tightest = start ∨ tightest ∈ rows) := by
  induction rows generalizing start with
  | nil => exact ⟨start, rfl, .inl rfl⟩
  | cons challenger rows ih =>
    rw [List.foldl_cons, keepTightest]
    split
    · obtain ⟨tightest, kept, place⟩ := ih challenger
      exact ⟨tightest, kept, .inr (List.mem_cons.2 place)⟩
    · obtain ⟨tightest, kept, place⟩ := ih start
      exact ⟨tightest, kept, place.imp_right (List.mem_cons_of_mem _)⟩

theorem mem_of_foldl_keepTightest {tolerance : α} {rows : List (LimitingRow α)}
    {tightest : LimitingRow α}
    (kept : rows.foldl (keepTightest tolerance) none = some tightest) : tightest ∈ rows := by
  cases rows with
  | nil => cases kept
  | cons start rest =>
    obtain ⟨found, scanned, place⟩ := exists_foldl_keepTightest tolerance rest start
    obtain rfl : found = tightest := Option.some.inj (scanned.symm.trans kept)
    exact List.mem_cons.2 place

end Scan

/-- With separated differences the scan ends with a row that comes before all others. -/
private theorem precedes_of_foldl_keepTightest {tolerance : Rat} (nonnegative : 0 ≤ tolerance)
    {rows : List (LimitingRow Rat)} {start tightest : LimitingRow Rat}
    (separated : ∀ difference ∈ ratioDifferences tolerance (some start) rows,
      IsSeparated tolerance difference)
    (kept : rows.foldl (keepTightest tolerance) (some start) = some tightest) :
    tightest.Precedes start ∧ ∀ row ∈ rows, tightest.Precedes row := by
  induction rows generalizing start with
  | nil =>
    obtain rfl : start = tightest := Option.some.inj kept
    exact ⟨.refl _, by simp⟩
  | cons challenger rows ih =>
    obtain ⟨first, rest⟩ := List.forall_mem_cons.1 separated
    have order := LimitingRow.precedes_of_beats nonnegative first
    rw [List.foldl_cons] at kept
    simp only [keepTightest] at kept rest
    -- Whichever row is kept comes before the other one, and the result before the row that is kept.
    split at order
    · rename_i beats
      rw [if_pos beats] at kept rest
      obtain ⟨before, others⟩ := ih rest kept
      exact ⟨before.trans order, List.forall_mem_cons.2 ⟨before, others⟩⟩
    · rename_i loses
      rw [if_neg loses] at kept rest
      obtain ⟨before, others⟩ := ih rest kept
      exact ⟨before, List.forall_mem_cons.2 ⟨before.trans order, others⟩⟩

namespace Tableau

/-! ## Limiting rows -/

section Rows

variable {α : Type} [Scalar α] {tableau : Tableau α} {col : Nat} {tolerance : α}

/-- How far a row lets a column grow. -/
def ratio (tableau : Tableau α) (col row : Nat) : α :=
  tableau.cell row tableau.rhsIndex / tableau.cell row col

theorem mem_limitingRows {entry : LimitingRow α} :
    entry ∈ tableau.limitingRows col tolerance ↔
      ∃ row ∈ tableau.constraintIndices, isPositive (tableau.cell row col) tolerance = true ∧
        ⟨row, tableau.ratio col row, tableau.basicColumn row⟩ = entry := by
  rw [limitingRows, zipIdx_basicRows, List.filterMap_map, List.mem_filterMap]
  apply exists_congr
  intro row
  rw [mem_range'_iff]
  apply and_congr_right
  intro _
  exact Option.ite_none_right_eq_some.trans (and_congr_right fun _ => Option.some_inj)

/-- No row leaves exactly if no row limits the column. -/
theorem leavingRow_eq_none_iff :
    tableau.leavingRow col tolerance = none ↔
      ∀ row ∈ tableau.constraintIndices, isPositive (tableau.cell row col) tolerance = false := by
  have empty_iff : tableau.limitingRows col tolerance = [] ↔
      ∀ row ∈ tableau.constraintIndices, isPositive (tableau.cell row col) tolerance = false := by
    simp only [List.eq_nil_iff_forall_not_mem, mem_limitingRows]
    constructor
    · intro none row row_mem
      by_contra limits
      exact none _ ⟨row, row_mem, by simpa using limits, rfl⟩
    · rintro below entry ⟨row, row_mem, limits, -⟩
      rw [below row row_mem] at limits
      cases limits
  rw [← empty_iff, leavingRow, Option.map_eq_none_iff]
  cases tableau.limitingRows col tolerance with
  | nil => simp
  | cons start rest =>
    obtain ⟨tightest, kept, -⟩ := exists_foldl_keepTightest tolerance rest start
    simp [keepTightest, kept]

/-- A leaving row has a cell above the tolerance. -/
theorem isPositive_of_leavingRow {row : Nat}
    (leaves : tableau.leavingRow col tolerance = some row) :
    row ∈ tableau.constraintIndices ∧ isPositive (tableau.cell row col) tolerance = true := by
  obtain ⟨entry, kept, rfl⟩ := Option.map_eq_some_iff.1 leaves
  obtain ⟨row, row_mem, positive, rfl⟩ := mem_limitingRows.1 (mem_of_foldl_keepTightest kept)
  exact ⟨row_mem, positive⟩

end Rows

variable {tableau : Tableau Rat} {col row : Nat} {tolerance : Rat}

theorem leavingRow_eq_none_iff_cell_le :
    tableau.leavingRow col tolerance = none ↔
      ∀ row ∈ tableau.constraintIndices, tableau.cell row col ≤ tolerance := by
  rw [leavingRow_eq_none_iff]
  apply forall₂_congr
  intro row _
  rw [← not_lt, ← isPositive_iff, Bool.not_eq_true]

/-- With separated differences the leaving row comes before every other limiting row, by its ratio
and then by its basic column. -/
theorem ratio_le_of_leavingRow (nonnegative : 0 ≤ tolerance)
    (separated : ∀ difference ∈
      ratioDifferences tolerance none (tableau.limitingRows col tolerance),
        IsSeparated tolerance difference)
    (leaves : tableau.leavingRow col tolerance = some row) {other : Nat}
    (other_mem : other ∈ tableau.constraintIndices) (limits : tolerance < tableau.cell other col) :
    tableau.ratio col row < tableau.ratio col other ∨
      tableau.ratio col row = tableau.ratio col other ∧
        tableau.basicColumn row ≤ tableau.basicColumn other := by
  obtain ⟨entry, kept, same⟩ := Option.map_eq_some_iff.1 leaves
  -- The scan keeps one of the limiting rows, and that row comes before all of them.
  have least : ∀ limiting ∈ tableau.limitingRows col tolerance, entry.Precedes limiting := by
    cases rows : tableau.limitingRows col tolerance with
    | nil => simp
    | cons start rest =>
      rw [rows] at kept separated
      exact List.forall_mem_cons.2 (precedes_of_foldl_keepTightest nonnegative separated kept)
  obtain ⟨row, -, -, rfl⟩ := mem_limitingRows.1 (mem_of_foldl_keepTightest kept)
  obtain rfl := same
  exact least _ (mem_limitingRows.2 ⟨other, other_mem, (isPositive_iff _ _).2 limits, rfl⟩)

end Tableau

end SimplexMethod

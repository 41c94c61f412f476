import SimplexMethod.Pricing

/-!
# Which column enters

Either rule finds a column unless no cell is negative, and the column it finds has a negative cell.
Under the rule that takes the first negative cell, no cell before it is negative. Nothing here
depends on the kind of numbers.
-/

namespace SimplexMethod

variable {α : Type} [Scalar α] {cells : List α} {tolerance : α}

theorem mem_improvingColumns {entry : α × Nat} : entry ∈ improvingColumns cells tolerance ↔
    cells[entry.2]? = some entry.1 ∧ isNegative entry.1 tolerance = true := by
  rw [improvingColumns, List.mem_filter, List.mem_zipIdx_iff_getElem?]

private theorem foldl_keepLeast_isSome (entries : List (α × Nat)) (start : α × Nat) :
    ∃ least, entries.foldl keepLeast (some start) = some least ∧
      (least = start ∨ least ∈ entries) := by
  induction entries generalizing start with
  | nil => exact ⟨start, rfl, .inl rfl⟩
  | cons entry rest ih =>
    rw [List.foldl_cons, keepLeast]
    split
    · obtain ⟨least, kept, place⟩ := ih start
      exact ⟨least, kept, place.imp_right (List.mem_cons_of_mem _)⟩
    · obtain ⟨least, kept, place⟩ := ih entry
      exact ⟨least, kept, .inr (List.mem_cons.2 place)⟩

theorem mem_of_foldl_keepLeast {entries : List (α × Nat)} {least : α × Nat}
    (found : entries.foldl keepLeast none = some least) : least ∈ entries := by
  cases entries with
  | nil => cases found
  | cons start rest =>
    obtain ⟨last, kept, place⟩ := foldl_keepLeast_isSome rest start
    obtain rfl : last = least := Option.some.inj (kept.symm.trans found)
    exact List.mem_cons.2 place

namespace PivotRule

/-- The entering column is among the negative cells, and there is one if there are such cells. -/
private theorem enteringColumn_cases (rule : PivotRule) (cells : List α) (tolerance : α) :
    (rule.enteringColumn cells tolerance = none ∧ improvingColumns cells tolerance = []) ∨
      ∃ entry ∈ improvingColumns cells tolerance,
        rule.enteringColumn cells tolerance = some entry.2 := by
  -- Both rules choose from the same list of cells.
  cases found : improvingColumns cells tolerance with
  | nil => left; cases rule <;> simp [enteringColumn, found]
  | cons entry rest =>
    right
    cases rule with
    | bland => exact ⟨entry, List.mem_cons_self, by simp [enteringColumn, found]⟩
    | dantzig =>
      obtain ⟨least, kept, place⟩ := foldl_keepLeast_isSome rest entry
      refine ⟨least, List.mem_cons.2 place, ?_⟩
      rw [enteringColumn, found, List.foldl_cons, keepLeast, kept, Option.map_some]

/-- If no column enters, no cell is negative. -/
theorem not_isNegative_of_enteringColumn_eq_none {rule : PivotRule}
    (finished : rule.enteringColumn cells tolerance = none) {value : α} (member : value ∈ cells) :
    isNegative value tolerance = false := by
  rcases rule.enteringColumn_cases cells tolerance with ⟨-, empty⟩ | ⟨entry, -, enters⟩
  · obtain ⟨index, inside, rfl⟩ := List.getElem_of_mem member
    have listed : (cells[index], index) ∈ cells.zipIdx :=
      List.mem_zipIdx_iff_getElem?.2 (List.getElem?_eq_getElem inside)
    rw [improvingColumns, List.filter_eq_nil_iff] at empty
    simpa using empty _ listed
  · rw [finished] at enters
    cases enters

theorem isNegative_of_enteringColumn_eq_some {rule : PivotRule} {col : Nat}
    (enters : rule.enteringColumn cells tolerance = some col) :
    ∃ value, cells[col]? = some value ∧ isNegative value tolerance = true := by
  rcases rule.enteringColumn_cases cells tolerance with ⟨finished, -⟩ | ⟨entry, member, found⟩
  · rw [finished] at enters
    cases enters
  · rw [found] at enters
    obtain rfl := Option.some.inj enters
    exact ⟨entry.1, mem_improvingColumns.1 member⟩

/-- No cell before the one that `bland` takes is negative. -/
theorem not_isNegative_of_bland {col : Nat}
    (enters : bland.enteringColumn cells tolerance = some col) {j : Nat} (before : j < col)
    {value : α} (at_j : cells[j]? = some value) : isNegative value tolerance = false := by
  rw [enteringColumn, improvingColumns, List.head?_filter, Option.map_eq_some_iff] at enters
  obtain ⟨entry, found, rfl⟩ := enters
  obtain ⟨-, index, inside, rfl, earlier⟩ := List.find?_eq_some_iff_getElem.1 found
  have present := List.getElem?_eq_some_iff.1 at_j
  simp only [List.getElem_zipIdx, Nat.zero_add] at before earlier
  have := earlier j before
  simpa [present.2] using this

end PivotRule

end SimplexMethod

import SimplexMethod.Proofs.RatioTest
import SimplexMethod.Proofs.StandardForm.Layout
import SimplexMethod.Proofs.Tableau.Identity

/-!
# Ties of the ratio test

Ratios that differ by no more than the tolerance are taken for equal, and this is no equivalence:
each row that is held for the best can be replaced by one with a larger ratio, as long as each step
is small. So the leaving row need not be among the rows whose ratio is least to tolerance. It is the
first of these by basic column unless a row just beyond the tie is in the way.

## Main definitions

* `Tableau.limitingIndices`: the rows that limit a column
* `Tableau.tiedIndices`: those of them whose ratio is least to tolerance
* `Tableau.heldBefore`: the row that is held for the best when the scan comes to a row

## Main results

* `ratio_le_of_foldl_keepTightest`: how far the ratio of the leaving row is above the least one
* `foldl_keepTightest_append_cons_eq_some_iff`: when a scan ends with a given row
* `Tableau.leavingRow_among_ties`: when the leaving row is the first of the tied rows
-/

namespace SimplexMethod

/-! ## The scan -/

section Scan

variable {α : Type} [Scalar α] {tolerance : α} {rows before after : List (LimitingRow α)}
  {row : LimitingRow α}

/-- A row that is held stays held exactly if no later row beats it. -/
theorem foldl_keepTightest_eq_some_iff (fresh : row ∉ rows) :
    rows.foldl (keepTightest tolerance) (some row) = some row ↔
      ∀ later ∈ rows, later.beats row tolerance = false := by
  induction rows with
  | nil => simp
  | cons challenger rows ih =>
    obtain ⟨different, fresh⟩ := not_or.1 (mt List.mem_cons.2 fresh)
    rw [List.foldl_cons, keepTightest, List.forall_mem_cons]
    cases beats : challenger.beats row tolerance with
    | false => simpa using ih fresh
    | true =>
      -- The row cannot come back after it has been replaced.
      obtain ⟨tightest, kept, place⟩ := exists_foldl_keepTightest tolerance rows challenger
      have lost : tightest ≠ row := by
        rintro rfl
        exact place.elim different fresh
      simp [kept, lost]

/-- A scan ends with a given row exactly if that row beats the one held before it and is beaten by
none after it. -/
theorem foldl_keepTightest_append_cons_eq_some_iff (fresh : row ∉ before) (last : row ∉ after) :
    (before ++ row :: after).foldl (keepTightest tolerance) none = some row ↔
      (∀ held, before.foldl (keepTightest tolerance) none = some held →
        row.beats held tolerance = true) ∧
      ∀ later ∈ after, later.beats row tolerance = false := by
  rw [List.foldl_append, List.foldl_cons]
  cases scanned : before.foldl (keepTightest tolerance) none with
  | none => simpa [keepTightest] using foldl_keepTightest_eq_some_iff last
  | some held =>
    rw [keepTightest]
    cases beats : row.beats held tolerance with
    | true => simpa [beats] using foldl_keepTightest_eq_some_iff last
    | false =>
      obtain ⟨tightest, kept, place⟩ := exists_foldl_keepTightest tolerance after held
      have lost : tightest ≠ row := by
        rintro rfl
        refine place.elim (fun same => fresh ?_) last
        exact same ▸ mem_of_foldl_keepTightest scanned
      simp [kept, lost, beats]

end Scan

namespace LimitingRow

variable {tolerance : Rat} (nonnegative : 0 ≤ tolerance) (first second : LimitingRow Rat)
include nonnegative

/-- A row is taken if its ratio is clearly less, or else if it is not clearly more and the basic
column comes first. -/
theorem beats_iff : first.beats second tolerance = true ↔
    first.ratio + tolerance < second.ratio ∨
      first.ratio ≤ second.ratio + tolerance ∧ first.basic < second.basic := by
  unfold beats
  split
  · rename_i tie
    obtain ⟨below, above⟩ := abs_le.1 ((isZero_iff _ _).1 tie)
    have not_less : ¬first.ratio + tolerance < second.ratio := by linarith
    have not_more : first.ratio ≤ second.ratio + tolerance := by linarith
    simp [not_less, not_more]
  · rename_i untied
    rw [isZero_iff, abs_le] at untied
    rw [decide_eq_true_iff]
    constructor
    · intro less
      by_contra! near
      exact untied ⟨by linarith, by linarith⟩
    · rintro (less | ⟨near, -⟩)
      · linarith
      · by_contra! more
        exact untied ⟨by linarith, by linarith⟩

end LimitingRow

/-- Whichever of two rows is kept, it is at most the tolerance above both. -/
theorem exists_keepTightest_eq {tolerance : Rat} (nonnegative : 0 ≤ tolerance)
    (best challenger : LimitingRow Rat) :
    ∃ kept, keepTightest tolerance (some best) challenger = some kept ∧
      kept.ratio ≤ best.ratio + tolerance ∧ kept.ratio ≤ challenger.ratio + tolerance := by
  have beats_iff := LimitingRow.beats_iff nonnegative challenger best
  unfold keepTightest
  dsimp only
  split
  · rename_i beats
    refine ⟨challenger, rfl, ?_, le_add_of_nonneg_right nonnegative⟩
    rcases beats_iff.1 beats with less | ⟨near, -⟩
    · linarith
    · exact near
  · rename_i loses
    exact ⟨best, rfl, le_add_of_nonneg_right nonnegative,
      not_lt.1 fun less => loses (beats_iff.2 (.inl less))⟩

/-- Each row that is seen can bring the ratio of the row that is held up by the tolerance. -/
theorem ratio_le_of_foldl_keepTightest {tolerance : Rat} (nonnegative : 0 ≤ tolerance)
    {rows : List (LimitingRow Rat)} {start tightest : LimitingRow Rat}
    (kept : rows.foldl (keepTightest tolerance) (some start) = some tightest) :
    ∀ row ∈ start :: rows, tightest.ratio ≤ row.ratio + rows.length * tolerance := by
  induction rows generalizing start with
  | nil =>
    obtain rfl : start = tightest := Option.some.inj kept
    simp
  | cons challenger rows ih =>
    obtain ⟨best, step, start_le, challenger_le⟩ :=
      exists_keepTightest_eq nonnegative start challenger
    rw [List.foldl_cons, step] at kept
    obtain ⟨first, others⟩ := List.forall_mem_cons.1 (ih kept)
    rw [List.length_cons, Nat.cast_succ, add_one_mul]
    refine List.forall_mem_cons.2 ⟨by linarith, List.forall_mem_cons.2 ⟨by linarith, ?_⟩⟩
    intro row member
    linarith [others row member]

namespace Tableau

/-! ## Limiting rows in their order -/

section Rows

variable {α : Type} [Scalar α] {tableau : Tableau α} {col : Nat} {tolerance : α}

/-- The rows that limit a column are listed in their order. -/
theorem pairwise_limitingRows (tableau : Tableau α) (col : Nat) (tolerance : α) :
    (tableau.limitingRows col tolerance).Pairwise fun upper lower => upper.row < lower.row := by
  rw [limitingRows, zipIdx_basicRows, List.filterMap_map, List.pairwise_filterMap]
  refine (List.pairwise_lt_range' ..).imp ?_
  intro upper lower less first first_eq second second_eq
  obtain ⟨-, first_eq⟩ := Option.ite_none_right_eq_some.1 first_eq
  obtain ⟨-, second_eq⟩ := Option.ite_none_right_eq_some.1 second_eq
  obtain rfl := Option.some.inj first_eq
  obtain rfl := Option.some.inj second_eq
  exact less

/-- A limiting row stands between those above it and those below it. -/
theorem exists_limitingRows_eq_append_cons {entry : LimitingRow α}
    (member : entry ∈ tableau.limitingRows col tolerance) :
    ∃ after, tableau.limitingRows col tolerance =
        (tableau.limitingRows col tolerance).filter (·.row < entry.row) ++ entry :: after ∧
      ∀ later, later ∈ after ↔
        later ∈ tableau.limitingRows col tolerance ∧ entry.row < later.row := by
  have order := pairwise_limitingRows tableau col tolerance
  obtain ⟨before, after, split⟩ := List.append_of_mem member
  rw [split] at order ⊢
  obtain ⟨-, order, above⟩ := List.pairwise_append.1 order
  obtain ⟨below, -⟩ := List.pairwise_cons.1 order
  have upper {row : LimitingRow α} (row_mem : row ∈ before) : row.row < entry.row :=
    above row row_mem entry List.mem_cons_self
  refine ⟨after, ?_, fun later => ⟨fun later_mem => ?_, ?_⟩⟩
  · have kept : before.filter (·.row < entry.row) = before :=
      List.filter_eq_self.2 fun row row_mem => decide_eq_true (upper row_mem)
    have dropped : (entry :: after).filter (·.row < entry.row) = [] := by
      rw [List.filter_eq_nil_iff, List.forall_mem_cons]
      refine ⟨by simp, fun row row_mem => ?_⟩
      simpa using (below row row_mem).le
    rw [List.filter_append, kept, dropped, List.append_nil]
  · exact ⟨by simp [later_mem], below later later_mem⟩
  · rintro ⟨later_mem, less⟩
    rcases List.mem_append.1 later_mem with earlier | later_mem
    · exact absurd (upper earlier) less.not_gt
    · rcases List.mem_cons.1 later_mem with rfl | later_mem
      · exact absurd less (lt_irrefl _)
      · exact later_mem

/-- The row that is held for the best when the scan comes to a row. -/
def heldBefore (tableau : Tableau α) (col : Nat) (tolerance : α) (row : Nat) : Option Nat :=
  (((tableau.limitingRows col tolerance).filter (·.row < row)).foldl
    (keepTightest tolerance) none).map LimitingRow.row

end Rows

/-! ## Tied rows -/

/-- The rows that limit a column. -/
def limitingIndices (tableau : Tableau Rat) (col : Nat) (tolerance : Rat) : Finset Nat :=
  tableau.constraintIndices.filter fun row => tolerance < tableau.cell row col

/-- Among the rows that limit a column, those whose ratio is at most the tolerance above the least
one. -/
def tiedIndices (tableau : Tableau Rat) (col : Nat) (tolerance : Rat) : Finset Nat :=
  (tableau.limitingIndices col tolerance).filter fun row =>
    ∀ other ∈ tableau.limitingIndices col tolerance,
      tableau.ratio col row ≤ tableau.ratio col other + tolerance

/-- The tied row whose basic column comes first. -/
def IsFirstTied (tableau : Tableau Rat) (col : Nat) (tolerance : Rat) (row : Nat) : Prop :=
  row ∈ tableau.tiedIndices col tolerance ∧
    ∀ tied ∈ tableau.tiedIndices col tolerance, tableau.basicColumn row ≤ tableau.basicColumn tied

instance (tableau : Tableau Rat) (col : Nat) (tolerance : Rat) (row : Nat) :
    Decidable (tableau.IsFirstTied col tolerance row) :=
  inferInstanceAs (Decidable (_ ∧ _))

variable {tableau : Tableau Rat} {col row : Nat} {tolerance : Rat}

theorem mem_limitingIndices : row ∈ tableau.limitingIndices col tolerance ↔
    row ∈ tableau.constraintIndices ∧ tolerance < tableau.cell row col := Finset.mem_filter

/-- What the ratio test sees of a row. -/
private def limitAt (tableau : Tableau Rat) (col row : Nat) : LimitingRow Rat :=
  ⟨row, tableau.ratio col row, tableau.basicColumn row⟩

private theorem mem_limitingRows_iff {entry : LimitingRow Rat} :
    entry ∈ tableau.limitingRows col tolerance ↔
      ∃ row ∈ tableau.limitingIndices col tolerance, tableau.limitAt col row = entry := by
  simp only [mem_limitingRows, mem_limitingIndices, isPositive_iff, and_assoc]
  rfl

private theorem limitAt_mem_iff :
    tableau.limitAt col row ∈ tableau.limitingRows col tolerance ↔
      row ∈ tableau.limitingIndices col tolerance := by
  rw [mem_limitingRows_iff]
  refine ⟨fun ⟨other, limits, same⟩ => ?_, fun limits => ⟨row, limits, rfl⟩⟩
  obtain rfl : other = row := congrArg LimitingRow.row same
  exact limits

/-- What a scan of some limiting rows ends with is known from the index of the row. -/
private theorem map_row_eq_some_iff {rows : List (LimitingRow Rat)}
    (sublist : ∀ entry ∈ rows, entry ∈ tableau.limitingRows col tolerance) :
    (rows.foldl (keepTightest tolerance) none).map LimitingRow.row = some row ↔
      rows.foldl (keepTightest tolerance) none = some (tableau.limitAt col row) := by
  rw [Option.map_eq_some_iff]
  constructor
  · rintro ⟨entry, kept, rfl⟩
    obtain ⟨row, -, rfl⟩ := mem_limitingRows_iff.1 (sublist _ (mem_of_foldl_keepTightest kept))
    exact kept
  · exact fun kept => ⟨_, kept, rfl⟩

theorem card_limitingIndices : (tableau.limitingIndices col tolerance).card =
    (tableau.limitingRows col tolerance).length := by
  have distinct : ((tableau.limitingRows col tolerance).map LimitingRow.row).Nodup :=
    List.pairwise_map.2 ((pairwise_limitingRows tableau col tolerance).imp ne_of_lt)
  have indices : ((tableau.limitingRows col tolerance).map LimitingRow.row).toFinset =
      tableau.limitingIndices col tolerance := by
    ext row
    simp only [List.mem_toFinset, List.mem_map, mem_limitingRows_iff]
    constructor
    · rintro ⟨-, ⟨row, limits, rfl⟩, rfl⟩
      exact limits
    · exact fun limits => ⟨_, ⟨row, limits, rfl⟩, rfl⟩
  rw [← indices, List.toFinset_card_of_nodup distinct, List.length_map]

/-- The ratio of the leaving row is above that of another row by at most as many tolerances as there
are other rows. -/
theorem ratio_le_add_of_leavingRow (nonnegative : 0 ≤ tolerance)
    (leaves : tableau.leavingRow col tolerance = some row) {other : Nat}
    (limits : other ∈ tableau.limitingIndices col tolerance) :
    tableau.ratio col row ≤ tableau.ratio col other +
      ((tableau.limitingIndices col tolerance).card - 1 : Nat) * tolerance := by
  have kept := (map_row_eq_some_iff fun _ => id).1 leaves
  have member := limitAt_mem_iff.2 limits
  rw [card_limitingIndices]
  cases rows : tableau.limitingRows col tolerance with
  | nil => simp [rows] at member
  | cons start rest =>
    rw [rows] at kept member
    have bound := ratio_le_of_foldl_keepTightest nonnegative kept _ member
    rwa [limitAt, limitAt] at bound

private theorem eq_of_basicColumn_eq (distinct : tableau.basis.Nodup) {other : Nat}
    (row_mem : row ∈ tableau.constraintIndices) (other_mem : other ∈ tableau.constraintIndices)
    (same : tableau.basicColumn row = tableau.basicColumn other) : row = other := by
  have found := (basicColumn?_eq_some_iff_basicRow? distinct).1 (basicColumn?_eq row_mem)
  have found' := (basicColumn?_eq_some_iff_basicRow? distinct).1 (basicColumn?_eq other_mem)
  rw [same] at found
  exact Option.some.inj (found.symm.trans found')

theorem mem_tiedIndices : row ∈ tableau.tiedIndices col tolerance ↔
    row ∈ tableau.limitingIndices col tolerance ∧
      ∀ other ∈ tableau.limitingIndices col tolerance,
        tableau.ratio col row ≤ tableau.ratio col other + tolerance := Finset.mem_filter

/-- If some row limits the column, one of the rows with the least ratio has the first basic column,
and with distinct basic columns there is no other such row. -/
theorem existsUnique_isFirstTied (distinct : tableau.basis.Nodup) (nonnegative : 0 ≤ tolerance)
    (limited : (tableau.limitingIndices col tolerance).Nonempty) :
    ∃! row, tableau.IsFirstTied col tolerance row := by
  obtain ⟨least, least_mem, minimal⟩ := Finset.exists_min_image _ (tableau.ratio col) limited
  have tied : (tableau.tiedIndices col tolerance).Nonempty :=
    ⟨least, mem_tiedIndices.2 ⟨least_mem, fun other member =>
      (minimal other member).trans (le_add_of_nonneg_right nonnegative)⟩⟩
  obtain ⟨row, row_mem, first⟩ := Finset.exists_min_image _ tableau.basicColumn tied
  have constraint {tied : Nat} (member : tied ∈ tableau.tiedIndices col tolerance) :
      tied ∈ tableau.constraintIndices := (mem_limitingIndices.1 (mem_tiedIndices.1 member).1).1
  refine ⟨row, ⟨row_mem, first⟩, fun other ⟨other_mem, other_first⟩ => ?_⟩
  exact eq_of_basicColumn_eq distinct (constraint other_mem) (constraint row_mem)
    (le_antisymm (other_first row row_mem) (first other other_mem))

section Beats

variable {other : Nat} (nonnegative : 0 ≤ tolerance)
  (near : tableau.ratio col row ≤ tableau.ratio col other + tolerance)
include nonnegative near

/-- A row that is not clearly more than another one is taken instead of it unless the other one is
not clearly more either and comes first. -/
private theorem beats_limitAt_iff :
    (tableau.limitAt col row).beats (tableau.limitAt col other) tolerance = true ↔
      (tableau.ratio col other ≤ tableau.ratio col row + tolerance →
        tableau.basicColumn row < tableau.basicColumn other) := by
  rw [LimitingRow.beats_iff nonnegative, limitAt, limitAt, and_iff_right near, ← not_le,
    imp_iff_not_or]

/-- A row that is not clearly more than another one is kept unless the other one is not clearly more
either and comes first. -/
private theorem limitAt_beats_eq_false_iff :
    (tableau.limitAt col other).beats (tableau.limitAt col row) tolerance = false ↔
      (tableau.ratio col other ≤ tableau.ratio col row + tolerance →
        tableau.basicColumn row ≤ tableau.basicColumn other) := by
  rw [← Bool.not_eq_true, LimitingRow.beats_iff nonnegative, limitAt, limitAt,
    or_iff_right near.not_gt, not_and, not_lt]

end Beats

/-- The row that is held when the scan comes to a row is a limiting row above it. -/
theorem lt_of_heldBefore {held : Nat}
    (held_eq : tableau.heldBefore col tolerance row = some held) :
    held ∈ tableau.limitingIndices col tolerance ∧ held < row := by
  obtain ⟨entry, scanned, rfl⟩ := Option.map_eq_some_iff.1 held_eq
  obtain ⟨entry_mem, less⟩ := List.mem_filter.1 (mem_of_foldl_keepTightest scanned)
  obtain ⟨held, limits, rfl⟩ := mem_limitingRows_iff.1 entry_mem
  exact ⟨limits, of_decide_eq_true less⟩

/-- A tied row leaves exactly if its basic column comes before that of the row held before it, and
of every later row, unless the ratio of that row is clearly larger. -/
theorem leavingRow_eq_some_iff (nonnegative : 0 ≤ tolerance)
    (tied : row ∈ tableau.tiedIndices col tolerance) :
    tableau.leavingRow col tolerance = some row ↔
      (∀ held, tableau.heldBefore col tolerance row = some held →
        tableau.ratio col held ≤ tableau.ratio col row + tolerance →
          tableau.basicColumn row < tableau.basicColumn held) ∧
      ∀ later ∈ tableau.limitingIndices col tolerance, row < later →
        tableau.ratio col later ≤ tableau.ratio col row + tolerance →
          tableau.basicColumn row ≤ tableau.basicColumn later := by
  obtain ⟨limits, least⟩ := mem_tiedIndices.1 tied
  obtain ⟨after, split, below⟩ := exists_limitingRows_eq_append_cons (limitAt_mem_iff.2 limits)
  have above : ∀ entry ∈ (tableau.limitingRows col tolerance).filter
      (·.row < (tableau.limitAt col row).row), entry ∈ tableau.limitingRows col tolerance :=
    fun entry member => (List.mem_filter.1 member).1
  rw [leavingRow, map_row_eq_some_iff fun _ => id, split,
    foldl_keepTightest_append_cons_eq_some_iff (by simp) (by simp [below])]
  constructor
  · rintro ⟨beats, unbeaten⟩
    refine ⟨fun held held_eq => ?_, fun later later_limits less => ?_⟩
    · exact (beats_limitAt_iff nonnegative (least held (lt_of_heldBefore held_eq).1)).1
        (beats _ ((map_row_eq_some_iff above).1 held_eq))
    · exact (limitAt_beats_eq_false_iff nonnegative (least later later_limits)).1
        (unbeaten _ ((below _).2 ⟨limitAt_mem_iff.2 later_limits, less⟩))
  · rintro ⟨before, unbeaten⟩
    refine ⟨fun entry scanned => ?_, fun entry member => ?_⟩
    · obtain ⟨held, held_limits, rfl⟩ :=
        mem_limitingRows_iff.1 (above _ (mem_of_foldl_keepTightest scanned))
      exact (beats_limitAt_iff nonnegative (least held held_limits)).2
        (before held ((map_row_eq_some_iff above).2 scanned))
    · obtain ⟨entry_mem, less⟩ := (below _).1 member
      obtain ⟨later, later_limits, rfl⟩ := mem_limitingRows_iff.1 entry_mem
      exact (limitAt_beats_eq_false_iff nonnegative (least later later_limits)).2
        (unbeaten later later_limits less)

/-- The first of the tied rows leaves if it comes before all rows just beyond the tie. -/
theorem leavingRow_eq_some_of_isFirstTied (distinct : tableau.basis.Nodup)
    (nonnegative : 0 ≤ tolerance) (first : tableau.IsFirstTied col tolerance row)
    (beyond : ∀ other ∈ tableau.limitingIndices col tolerance,
      other ∉ tableau.tiedIndices col tolerance →
        tableau.ratio col other ≤ tableau.ratio col row + tolerance →
          tableau.basicColumn row ≤ tableau.basicColumn other) :
    tableau.leavingRow col tolerance = some row := by
  have comes_first {other : Nat} (limits : other ∈ tableau.limitingIndices col tolerance)
      (near : tableau.ratio col other ≤ tableau.ratio col row + tolerance) :
      tableau.basicColumn row ≤ tableau.basicColumn other := by
    by_cases tied : other ∈ tableau.tiedIndices col tolerance
    · exact first.2 other tied
    · exact beyond other limits tied near
  refine (leavingRow_eq_some_iff nonnegative first.1).2
    ⟨fun held held_eq near => ?_, fun later limits _ near => comes_first limits near⟩
  obtain ⟨limits, less⟩ := lt_of_heldBefore held_eq
  refine (comes_first limits near).lt_of_ne fun same => less.ne' ?_
  exact eq_of_basicColumn_eq distinct (mem_limitingIndices.1 (mem_tiedIndices.1 first.1).1).1
    (mem_limitingIndices.1 limits).1 same

/-- No row leaves exactly if no row limits the column. Otherwise a limiting row leaves, with a ratio
above the least one by at most as many tolerances as there are other limiting rows. Exactly one row
is the first of the tied ones. It leaves exactly if it comes before the row that is held when the
scan reaches it, and before every limiting row after it, as far as their ratios are not clearly
larger than its own. So it leaves unless a row just beyond the tie comes before it. -/
theorem leavingRow_among_ties (distinct : tableau.basis.Nodup) (nonnegative : 0 ≤ tolerance)
    (col : Nat) :
    (tableau.leavingRow col tolerance = none ↔
      ∀ row ∈ tableau.constraintIndices, tableau.cell row col ≤ tolerance) ∧
    (∀ row, tableau.leavingRow col tolerance = some row →
      row ∈ tableau.limitingIndices col tolerance ∧
        ∀ other ∈ tableau.limitingIndices col tolerance,
          tableau.ratio col row ≤ tableau.ratio col other +
            ((tableau.limitingIndices col tolerance).card - 1 : Nat) * tolerance) ∧
    ((tableau.limitingIndices col tolerance).Nonempty →
      ∃! row, tableau.IsFirstTied col tolerance row) ∧
    ∀ row, tableau.IsFirstTied col tolerance row →
      (tableau.leavingRow col tolerance = some row ↔
        (∀ held, tableau.heldBefore col tolerance row = some held →
          tableau.ratio col held ≤ tableau.ratio col row + tolerance →
            tableau.basicColumn row < tableau.basicColumn held) ∧
        ∀ later ∈ tableau.limitingIndices col tolerance, row < later →
          tableau.ratio col later ≤ tableau.ratio col row + tolerance →
            tableau.basicColumn row ≤ tableau.basicColumn later) ∧
      ((∀ other ∈ tableau.limitingIndices col tolerance,
          other ∉ tableau.tiedIndices col tolerance →
            tableau.ratio col other ≤ tableau.ratio col row + tolerance →
              tableau.basicColumn row ≤ tableau.basicColumn other) →
        tableau.leavingRow col tolerance = some row) := by
  refine ⟨leavingRow_eq_none_iff_cell_le, fun row leaves => ⟨?_, fun other limits => ?_⟩,
    existsUnique_isFirstTied distinct nonnegative,
    fun row first => ⟨leavingRow_eq_some_iff nonnegative first.1,
      leavingRow_eq_some_of_isFirstTied distinct nonnegative first⟩⟩
  · obtain ⟨row_mem, limits⟩ := isPositive_of_leavingRow leaves
    exact mem_limitingIndices.2 ⟨row_mem, (isPositive_iff _ _).1 limits⟩
  · exact ratio_le_add_of_leavingRow nonnegative leaves limits

/-- Three constraints that limit the first variable, to 1, 11/8 and 7/4. -/
def driftingProblem : LinearProgram Rat where
  sense := .maximize
  objective := [1, 0]
  constraints := [⟨[1, 0], .equal, 1⟩, ⟨[1, 0], .atMost, 11 / 8⟩, ⟨[1, 1], .atMost, 7 / 4⟩]

/-- The tableau in which the limits of the first variable stand beside the basic columns 4, 2
and 1. -/
def driftingTableau : Tableau Rat :=
  driftingProblem.standardTableau.pivoted 3 1 (by decide +kernel) (by decide +kernel)

/-- With a tolerance below the differences the row with the least ratio leaves. With a larger one
the first two rows are tied and the second one comes first, but the third one is in its way. -/
theorem leavingRow_among_ties_driftingTableau :
    driftingTableau.basis.Nodup ∧ (0 : Rat) ≤ 1 / 4 ∧ (0 : Rat) ≤ 1 / 2 ∧
      driftingTableau.IsFirstTied 0 (1 / 4) 1 ∧ driftingTableau.leavingRow 0 (1 / 4) = some 1 ∧
      driftingTableau.IsFirstTied 0 (1 / 2) 2 ∧ driftingTableau.leavingRow 0 (1 / 2) ≠ some 2 := by
  have distinct : driftingTableau.basis.Nodup := by decide +kernel
  have quarter : (0 : Rat) ≤ 1 / 4 := by decide +kernel
  have half : (0 : Rat) ≤ 1 / 2 := by decide +kernel
  have first : driftingTableau.IsFirstTied 0 (1 / 4) 1 := by decide +kernel
  have second : driftingTableau.IsFirstTied 0 (1 / 2) 2 := by decide +kernel
  obtain ⟨-, -, -, leaves⟩ := leavingRow_among_ties distinct quarter 0
  obtain ⟨-, -, -, drifts⟩ := leavingRow_among_ties distinct half 0
  refine ⟨distinct, quarter, half, first, (leaves 1 first).2 (by decide +kernel), second, ?_⟩
  intro leaves
  have later := ((drifts 2 second).1.1 leaves).2 3 (by decide +kernel) (by decide)
  exact absurd (later (by decide +kernel)) (by decide +kernel)

/-- With the larger tolerance the scan drifts: the second row takes the place of the first one, and
the third row that of the second one, though its ratio is clearly larger than the first. The second
row is the first of the tied ones. -/
theorem leavingRow_driftingTableau :
    driftingTableau.basis.Nodup ∧ (0 : Rat) < 1 / 2 ∧
      driftingTableau.leavingRow 0 (1 / 2) = some 3 ∧
      driftingTableau.ratio 0 1 + 1 / 2 < driftingTableau.ratio 0 3 ∧
      3 ∉ driftingTableau.tiedIndices 0 (1 / 2) ∧ driftingTableau.IsFirstTied 0 (1 / 2) 2 := by
  decide +kernel

end Tableau

end SimplexMethod

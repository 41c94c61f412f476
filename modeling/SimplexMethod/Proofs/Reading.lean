import SimplexMethod.Proofs.Run.Comparisons
import SimplexMethod.Proofs.Tableau.Ray

/-!
# Reading off an optimum

The values of an optimum are those of the basic solution, in the order of the decision variables.
If the numbers that are read are separated, rounding to zero changes none of them.

## Main results

* `Assignment.value?_ofValues`: the values of an assignment in their order
* `Tableau.getElem?_basicSolution`: the entries of a basic solution
* `Run.value?_optimum`: the values of an optimum
* `Run.ReadingSeparated.value?_optimum`: the values of an optimum if rounding changes none of them
-/

namespace SimplexMethod

/-! ## Assignments -/

namespace Assignment

variable {α : Type}

theorem map_fst_ofValues (values : List α) :
    (ofValues values).entries.map Prod.fst = List.range values.length := by
  rw [ofValues, List.map_map, List.range_eq_range']
  exact List.zipIdx_map_snd 0 values

theorem value?_ofValues (values : List α) (index : Nat) :
    (ofValues values).value? index = values[index]? := by
  -- The induction needs the numbers to start anywhere.
  have found (start : Nat) : (values.zipIdx start).find? (fun entry => entry.2 == start + index) =
      values[index]?.map fun value => (value, start + index) := by
    induction values generalizing start index with
    | nil => rfl
    | cons value values ih =>
      rw [List.zipIdx_cons, List.find?_cons]
      cases index with
      | zero => simp
      | succ index =>
        have later : (start == start + (index + 1)) = false := by simp
        rw [later, show start + (index + 1) = start + 1 + index by omega]
        exact ih index (start + 1)
  have found := found 0
  rw [value?, ofValues, List.find?_map, Option.map_map]
  simp only [Nat.zero_add] at found
  change Option.map _ (values.zipIdx.find? fun entry => entry.2 == index) = _
  rw [found]
  cases values[index]? <;> rfl

end Assignment

/-! ## Basic solutions -/

/-- An entry is written by every pair with its index, so it holds what all of these pairs agree on,
and what it held before if there is no such pair. -/
private theorem getElem?_foldl_set {α : Type} {f : Row α → α} {basicRows : List (Nat × Row α)}
    {values : List α} {index : Nat} {value : α} (inside : index < values.length)
    (agree : ∀ basic ∈ basicRows, basic.1 = index → f basic.2 = value)
    (written : values[index]? = some value ∨ ∃ basic ∈ basicRows, basic.1 = index) :
    (basicRows.foldl (fun values basic => values.set basic.1 (f basic.2)) values)[index]? =
      some value := by
  induction basicRows generalizing values with
  | nil => exact written.resolve_right (by simp)
  | cons basic basicRows ih =>
    obtain ⟨first, rest⟩ := List.forall_mem_cons.1 agree
    refine ih (by simpa using inside) rest ?_
    -- Either this pair writes the entry, or it leaves the entry alone and is not the one that is
    -- sought.
    by_cases own : basic.1 = index
    · left
      rw [← own, List.getElem?_set_self (own ▸ inside), first own]
    · rw [List.getElem?_set_ne own]
      refine written.imp_right ?_
      rintro ⟨other, member, same⟩
      exact ⟨other, (List.mem_cons.1 member).resolve_left fun h => own (h ▸ same), same⟩

namespace Tableau

variable {tableau : Tableau Rat}

@[simp] theorem length_basicSolution (tableau : Tableau Rat) (count : Nat) (tolerance : Rat) :
    (tableau.basicSolution count tolerance).length = count := by
  have kept (basicRows : List (Nat × Row Rat)) (values : List Rat) :
      (basicRows.foldl (fun values basic =>
        values.set basic.1 (clean (tableau.rhsOf basic.2) tolerance)) values).length =
          values.length := by
    induction basicRows generalizing values with
    | nil => rfl
    | cons basic basicRows ih => exact (ih _).trans (List.length_set ..)
  rw [basicSolution, kept, List.length_replicate]

theorem getElem?_basicSolution (canonical : tableau.IsCanonical) {count index : Nat}
    (inside : index < count) (tolerance : Rat) :
    (tableau.basicSolution count tolerance)[index]? =
      some (clean (tableau.basicPoint index) tolerance) := by
  refine getElem?_foldl_set (f := fun cells => clean (tableau.rhsOf cells) tolerance)
    (by simpa using inside) (fun basic member own => ?_) ?_
  · obtain ⟨row, row_mem, rfl⟩ := mem_basicRows.1 member
    rw [← own, basicPoint_basicColumn canonical row_mem]
    rfl
  · -- A column outside of the basis keeps the zero that the list is filled with.
    rcases tableau.isNonbasic_or_basic index with nonbasic | ⟨row, row_mem, own⟩
    · left
      rw [basicPoint_of_isNonbasic nonbasic, clean, ite_self]
      simp [inside]
    · exact .inr ⟨_, mem_basicRows.2 ⟨row, row_mem, rfl⟩, own⟩

end Tableau

/-- The value of a decision variable is that of the basic solution, rounded to zero. -/
theorem Run.value?_optimum {run : Run Rat} (canonical : run.tableau.IsCanonical) {index : Nat}
    (inside : index < run.form.numDecision) : run.optimum.values.value? index =
      some (clean (run.tableau.basicPoint index) run.config.tolerance) := by
  change (Assignment.ofValues _).value? index = _
  rw [Assignment.value?_ofValues]
  exact Tableau.getElem?_basicSolution canonical inside _

/-! ## Separated readings -/

namespace Run.ReadingSeparated

variable {run : Run Rat} {steps : Nat}

/-- Rounding changes no value of a decision variable. -/
theorem value?_optimum (separated : run.ReadingSeparated)
    (state : (run.after steps).state = .finished .optimal)
    (canonical : (run.after steps).tableau.IsCanonical) {index : Nat}
    (inside : index < run.form.numDecision) :
    (run.after steps).optimum.values.value? index =
      some ((run.after steps).tableau.basicPoint index) := by
  rw [← run.after_form steps] at inside
  rw [Run.value?_optimum canonical inside, Option.some_inj, after_config]
  rcases (run.after steps).tableau.isNonbasic_or_basic index with nonbasic | ⟨row, row_mem, rfl⟩
  · rw [Tableau.basicPoint_of_isNonbasic nonbasic, clean, ite_self]
  · rw [Tableau.basicPoint_basicColumn canonical row_mem]
    have listed := Tableau.mem_basicRows.2 ⟨row, row_mem, rfl⟩
    refine (separated steps state _ (List.mem_append_left _ ?_)).clean_eq
    refine List.mem_map.2 ⟨_, List.mem_filter.2 ⟨listed, ?_⟩, rfl⟩
    exact decide_eq_true inside

/-- Rounding does not change the objective. -/
theorem objective_optimum (separated : run.ReadingSeparated)
    (state : (run.after steps).state = .finished .optimal) :
    (run.after steps).optimum.objective =
      some (if run.form.negated then -(run.after steps).tableau.objectiveValue
        else (run.after steps).tableau.objectiveValue) := by
  have number := separated steps state _ (List.mem_append_right _ (List.mem_singleton.2 rfl))
  rw [after_form] at number
  change some (clean _ _) = _
  rw [after_form, after_config, number.clean_eq]

end Run.ReadingSeparated

end SimplexMethod
